import Gamebook.Proofs.Asset.Tag

/-!
# Resolved tags

A media tag is resolved as its element is, its values in one of their written forms, unless a value
hides the class attribute of an element that is to be marked.
-/

namespace Gamebook.Asset

open Html Text

/-! ## Spelled attributes -/

/-- Attributes are spelled with one of them changed if its new value is written. -/
theorem spells_respell {key : String} {f : Text → Text} {g : String → String}
    (h : ∀ value : String, Writes (f (escape true value.toList)) (g value).toList)
    (as : List Attribute) :
    Spells (respell key f (spellings as))
      (as.map fun a => if a.name = key then { a with value := g a.value } else a) := by
  induction as with
  | nil => exact .nil
  | cons a as ih =>
      rw [spellings_cons, respell_cons, List.map_cons]
      refine .cons ?_ ih
      by_cases ha : a.name = key
      · rw [if_pos ha, if_pos ha]
        exact ⟨rfl, h a.value⟩
      · rw [if_neg ha, if_neg ha]
        exact ⟨rfl, writes_escape _⟩

theorem missing_plain : ∀ c ∈ ' ' :: missingClass.toList, c ∉ ['&', '<', '>', '"', '\u00a0'] :=
  fun c hc => by
    have hall : (' ' :: missingClass.toList).all (fun c =>
        !(['&', '<', '>', '"', '\u00a0'].contains c)) = true := by decide
    simpa using List.all_eq_true.1 hall c hc

theorem writes_missing (value : String) :
    Writes (escape true value.toList ++ ' ' :: missingClass.toList)
      (value ++ " " ++ missingClass).toList := by
  have ht : (value ++ " " ++ missingClass).toList = value.toList ++ (' ' :: missingClass.toList) := by
    rw [String.toList_append, String.toList_append, List.append_assoc]
    rfl
  have hw := writes_escape (value ++ " " ++ missingClass).toList
  rwa [ht, escape_append, escape_plain missing_plain, ← ht] at hw

theorem spells_concat_missing (as : List Attribute) :
    Spells (spellings as ++ [("class", missingClass.toList)])
      (as ++ [⟨"class", missingClass, ""⟩]) := by
  have hw := writes_escape missingClass.toList
  rw [escape_plain fun c hc => missing_plain c (List.mem_cons_of_mem _ hc)] at hw
  exact List.rel_append (spells_spellings as) (.cons ⟨rfl, hw⟩ .nil)

/-! ## Tags -/

theorem not_quote_tag {name : String} (h : name ∈ AllowList.story.tags) :
    '"' ∉ '<' :: name.toList := by
  have hall : AllowList.story.tags.all (fun n => !('<' :: n.toList).contains '"') = true := by decide
  simpa using List.all_eq_true.1 hall name h

variable {opening : String} {stem tail : Text}

/-- What is found in a tag is found in its attributes. -/
theorem splitFirst?_openTag (ho : opening.toList = stem ++ '"' :: tail) (hs : '"' ∉ stem)
    (hb : ' ' ∉ stem ∧ '>' ∉ stem) {name : String} (hn : name ∈ AllowList.story.tags)
    (as : List (String × Text)) :
    splitFirst? (quoted? opening) (openTag name as) =
      (splitFirst? (quoted? opening) (spellRest as)).map fun (before, value, rest) =>
        ('<' :: name.toList ++ before, value, rest) := by
  refine splitFirst?_append (spellRest as) fun s _ hsuf => ?_
  exact quoted?_front ho hs hb (fun hm => not_quote_tag hn (hsuf.mem hm)) as

theorem source_stem : sourceOpening.toList = "src=".toList ++ '"' :: "asset:".toList := by decide

theorem class_stem : classOpening.toList = "class=".toList ++ '"' :: [] := by decide

/-- A tag is marked as its element is, unless a value hides its class. -/
theorem markMissing_openTag {name : String} (hn : name ∈ AllowList.story.tags)
    {as : List Attribute} (h : Spelled as) (hh : hidesClass as = false) :
    ∃ sp, markMissing (openTag name (spellings as)) = openTag name sp ∧
      Spells sp (withMissing as) := by
  have hany : (as.any fun a => a.name == "class") = true ↔ "class" ∈ as.map (·.name) := by
    simp [List.any_eq_true, List.mem_map]
  by_cases hc : "class" ∈ as.map (·.name)
  · obtain ⟨before, value, rest, hf, hr⟩ := splitFirst?_class h hh hc
    have hs := splitFirst?_openTag class_stem (by decide) (by decide) hn (spellings as)
    rw [hf, Option.map_some] at hs
    refine ⟨respell "class" (· ++ ' ' :: missingClass.toList) (spellings as), ?_, ?_⟩
    · have hr := hr (' ' :: missingClass.toList)
      have ho (sp : List (String × Text)) : openTag name sp = '<' :: name.toList ++ spellRest sp :=
        rfl
      rw [markMissing, hs, ho (respell _ _ _), ← hr]
      simp only [List.append_assoc, List.cons_append]
    · rw [withMissing, if_pos (hany.2 hc)]
      exact spells_respell (f := (· ++ ' ' :: missingClass.toList))
        (g := (· ++ " " ++ missingClass)) writes_missing as
  · have hf := splitFirst?_class_none h hh hc
    have hs := splitFirst?_openTag class_stem (by decide) (by decide) hn (spellings as)
    rw [hf, Option.map_none] at hs
    refine ⟨spellings as ++ [("class", missingClass.toList)], ?_, ?_⟩
    · rw [markMissing, hs, openTag_concat, openTag_concat]
      simp only [List.getLast?_append, List.getLast?_singleton, Option.some_or, if_true,
        List.dropLast_concat, List.flatMap_append, List.flatMap_singleton]
      simp [spell, classOpening]
    · rw [withMissing, if_neg (mt hany.1 hc)]
      exact spells_concat_missing as

/-- A tag whose class is hidden gets the mark in front of the value of some other attribute. -/
theorem markMissing_hidden {name : String} (hn : name ∈ AllowList.story.tags)
    {as : List Attribute} (h : Spelled as) (hh : hidesClass as = true) :
    ∃ pre a b post, as = pre ++ a :: b :: post ∧
      markMissing (openTag name (spellings as)) = '<' :: name.toList ++
        misspell (spellings pre) (a.name, escape true a.value.toList)
          (b.name, escape true b.value.toList) (spellings post) := by
  obtain ⟨pre, a, b, post, he, before, value, rest, hf, hr⟩ := splitFirst?_hidden h hh
  have hs := splitFirst?_openTag class_stem (by decide) (by decide) hn (spellings as)
  rw [hf, Option.map_some] at hs
  refine ⟨pre, a, b, post, he, ?_⟩
  rw [markMissing, hs, ← hr]
  simp only [List.append_assoc, List.cons_append]

theorem resolveTag_unplaced {e : Element} (h : e.Sanitized storyNames) (c : Catalog)
    (hp : placeholder? e.attributes = none) : resolveTag c (writeStart e) = writeStart e := by
  have hs := splitFirst?_openTag source_stem (by decide) (by decide) h.tag (spellings e.attributes)
  rw [splitFirst?_source_none (spelled_of_sanitized h) hp, Option.map_none] at hs
  rw [resolveTag, writeStart_of_sanitized h, hs]

theorem resolveTag_placed {e : Element} (h : e.Sanitized storyNames) (c : Catalog) {name : Text}
    (hp : placeholder? e.attributes = some name) :
    resolveTag c (writeStart e) =
      match c.address? (String.ofList name) with
      | some address => openTag e.name
          (respell "src" (fun _ => attributeText address.toList) (spellings e.attributes))
      | none => markMissing (openTag e.name (spellings e.attributes)) := by
  have hs := splitFirst?_openTag source_stem (by decide) (by decide) h.tag (spellings e.attributes)
  obtain ⟨before, rest, hf, hb⟩ := splitFirst?_source (spelled_of_sanitized h) hp
  have hd : Reference.decode (escape true name) = name :=
    Reference.decode_flatMap (faithful_writeChar true) name
  rw [hf, Option.map_some] at hs
  rw [resolveTag, writeStart_of_sanitized h, hs]
  simp only [hd]
  cases hc : c.address? (String.ofList name) with
  | none => rfl
  | some address =>
      have ho (sp : List (String × Text)) : openTag e.name sp =
        '<' :: e.name.toList ++ spellRest sp := rfl
      simp only [ho (respell _ _ _), ← hb (attributeText address.toList), List.append_assoc,
        List.cons_append]

/-- The text of a media tag is resolved as its element is if it is not misread. -/
theorem resolveTag_writeStart {e : Element} (h : e.Sanitized storyNames) (c : Catalog)
    (hm : isMedia e = true) (hr : isMisread c e = false) :
    IsStart (resolveElement c e) (resolveTag c (writeStart e)) := by
  rw [resolveElement, if_pos hm, resolveAttributes]
  cases hp : placeholder? e.attributes with
  | none =>
      rw [resolveTag_unplaced h c hp]
      exact isStart_writeStart h
  | some name =>
      rw [resolveTag_placed h c hp]
      dsimp only
      cases hc : c.address? (String.ofList name) with
      | none =>
          have hh : hidesClass e.attributes = false := by
            rw [isMisread, hm, hp, Option.any_some, hc, Option.isNone_none] at hr
            simpa using hr
          exact markMissing_openTag h.tag (spelled_of_sanitized h) hh
      | some address =>
          exact ⟨_, rfl, spells_respell (f := fun _ => attributeText address.toList)
            (g := fun _ => address) (fun _ => writes_attributeText _) e.attributes⟩

/-- The text of a misread tag gets the mark in front of the value of some attribute. -/
theorem resolveTag_misread {e : Element} (h : e.Sanitized storyNames) {c : Catalog}
    (hr : isMisread c e = true) :
    ∃ pre a b post, e.attributes = pre ++ a :: b :: post ∧
      resolveTag c (writeStart e) = '<' :: e.name.toList ++
        misspell (spellings pre) (a.name, escape true a.value.toList)
          (b.name, escape true b.value.toList) (spellings post) := by
  rw [isMisread, Bool.and_eq_true, Bool.and_eq_true] at hr
  obtain ⟨⟨-, hh⟩, hp⟩ := hr
  obtain ⟨name, hp, hc⟩ := (Option.any_eq_true _ _).1 hp
  rw [resolveTag_placed h c hp, Option.isNone_iff_eq_none.1 hc]
  exact markMissing_hidden h.tag (spelled_of_sanitized h) hh

end Gamebook.Asset
