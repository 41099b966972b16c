import Gamebook.Proofs.Html.Spelling
import Gamebook.Proofs.Text.Line

/-!
# Reading tags back

Reading turns line breaks into line feeds, and null characters in values into replacement characters.
Up to this a tag whose values are in written forms reads back as the tag, whatever follows.
-/

namespace Gamebook.Html

open Text

/-! ## Line breaks and null characters in written values -/

theorem Faithful.head?_flatMap {w : Char → Text} (hw : Faithful w) {c : Char}
    (hc : c ∉ ['&', '<', '>', '"', '\u00a0']) (t : Text) :
    (t.flatMap w).head? = some c ↔ t.head? = some c := by
  cases t with
  | nil => rfl
  | cons d t =>
      rcases hw d with ⟨h, -⟩ | ⟨name, hn, h⟩
      · rw [List.flatMap_cons, h]
        rfl
      · have ha : '&' ≠ c := by
          rintro rfl
          exact hc (by decide)
        have hd : d ≠ c := by
          rintro rfl
          rw [hw.write_eq hc] at h
          exact ha (List.cons.inj h).1.symm
        rw [List.flatMap_cons, h]
        simp [ha, hd]

theorem Faithful.unixLines_flatMap {w : Char → Text} (hw : Faithful w) (t : Text) :
    unixLines (t.flatMap w) = (unixLines t).flatMap w := by
  have hr : w '\r' = ['\r'] := hw.write_eq (by decide)
  have hn : w '\n' = ['\n'] := hw.write_eq (by decide)
  fun_induction unixLines t with
  | case1 => rfl
  | case2 r ih =>
      rw [List.flatMap_cons, List.flatMap_cons, List.flatMap_cons, hr, hn, ← ih]
      rfl
  | case3 c r hlf ih =>
      rw [List.flatMap_cons, List.flatMap_cons, ← ih]
      by_cases hc : c = '\r'
      · subst hc
        have hh : (r.flatMap w).head? ≠ some '\n' := by
          rw [Ne, hw.head?_flatMap (by decide)]
          intro h
          cases r with
          | nil => cases h
          | cons d r => exact hlf r rfl (by rw [← Option.some.inj h])
        rw [hr, if_pos rfl, hn, List.singleton_append, unixLines_return hh]
        rfl
      · have hm : '\r' ∉ w c := by
          rcases hw c with ⟨h, -⟩ | ⟨name, hna, h⟩
          · rw [h, List.mem_singleton]
            exact Ne.symm hc
          · have hall : ∀ e ∈ Reference.writtenNames, '\r' ∉ '&' :: e.1 ++ [';'] := by decide
            rw [h]
            exact hall _ hna
        rw [if_neg hc, unixLines_append_of_not_mem hm]

namespace Token

theorem withoutNul_append (s t : Text) : withoutNul (s ++ t) = withoutNul s ++ withoutNul t :=
  List.map_append

theorem withoutNul_of_not_mem {t : Text} (h : '\x00' ∉ t) : withoutNul t = t := by
  induction t with
  | nil => rfl
  | cons c t ih =>
      rw [List.mem_cons, not_or] at h
      rw [withoutNul, List.map_cons, if_neg (Ne.symm h.1)]
      exact congrArg (c :: ·) (ih h.2)

theorem withoutNul_flatMap {w : Char → Text} (hw : Faithful w) (t : Text) :
    withoutNul (t.flatMap w) = (withoutNul t).flatMap w := by
  induction t with
  | nil => rfl
  | cons c t ih =>
      have hc : withoutNul (w c) =
          w (if c = '\x00' then Reference.replacement else c) := by
        by_cases hc : c = '\x00'
        · have hr : w Reference.replacement = [Reference.replacement] := hw.write_eq (by decide)
          rw [if_pos hc, hr, hc, hw.write_eq (by decide)]
          rfl
        · rw [if_neg hc]
          refine withoutNul_of_not_mem ?_
          rcases hw c with ⟨h, -⟩ | ⟨name, hna, h⟩
          · rw [h, List.mem_singleton]
            exact Ne.symm hc
          · have hall : ∀ e ∈ Reference.writtenNames, '\x00' ∉ '&' :: e.1 ++ [';'] := by decide
            rw [h]
            exact hall _ hna
      rw [List.flatMap_cons, withoutNul_append, ih, hc]
      rfl

/-- What a written value is read as. -/
def readBack (value : String) : String := String.ofList (withoutNul (unixLines value.toList))

theorem valueOf_writes {w : Text} {value : String} (h : Writes w value.toList) :
    valueOf (unixLines w) = readBack value := by
  obtain ⟨f, hf, -, rfl⟩ := h
  rw [valueOf, hf.unixLines_flatMap, withoutNul_flatMap hf, Reference.resolve_flatMap hf]
  rfl

/-! ## Attributes -/

/-- A name of which every character may stand in a name in lower case. -/
structure IsName (name : String) : Prop where
  nonempty : name.toList ≠ []
  goesOn : ∀ c ∈ name.toList, endsName c = false ∧ c ≠ '='
  lower : nameOf name.toList = name

/-- Finds out whether every character of a name may stand in a name in lower case. -/
def spellsName (name : String) : Bool :=
  !name.toList.isEmpty && (name.toList.all fun c => !endsName c && c != '=') &&
    nameOf name.toList == name

theorem IsName.of_spellsName {name : String} (h : spellsName name = true) : IsName name := by
  simp only [spellsName, Bool.and_eq_true, List.all_eq_true, Bool.not_eq_true', bne_iff_ne,
    beq_iff_eq, List.isEmpty_eq_false_iff] at h
  exact ⟨h.1.1, h.1.2, h.2⟩

theorem isName_attribute {name : String} (h : name ∈ storyNames) : IsName name := by
  have hall : storyNames.all spellsName = true := by decide
  exact .of_spellsName (List.all_eq_true.1 hall name h)

theorem isSpace_of_endsName {c : Char} (h : endsName c = false) :
    isSpace c = false ∧ c ≠ '/' ∧ c ≠ '>' := by
  rw [endsName, Bool.or_eq_false_iff, Bool.or_eq_false_iff] at h
  simpa [and_assoc] using h

/-- The name of an attribute is read up to its equals sign. -/
theorem attributes?_name {name : String} (h : IsName name) (as : List Attribute) (rounds : Nat)
    (rest : Text) :
    attributes? as (rounds + 1) (' ' :: name.toList ++ '=' :: rest) =
      match attributeValue? rest with
      | none => none
      | some (value, rest) => attributes? (addAttribute as name.toList value) rounds rest := by
  obtain ⟨hne, hg, hl⟩ := h
  cases hn : name.toList with
  | nil => exact absurd hn hne
  | cons c n =>
      rw [hn] at hg
      have hc := hg c (List.mem_cons_self ..)
      obtain ⟨hs, hslash, hb⟩ := isSpace_of_endsName hc.1
      have hd : (' ' :: (c :: n) ++ '=' :: rest).dropWhile isSpace = c :: (n ++ '=' :: rest) := by
        rw [List.cons_append, List.dropWhile_cons_of_pos (by decide), List.cons_append,
          List.dropWhile_cons_of_neg (by simp [hs])]
      have hp : ∀ d ∈ n, (!(endsName d || d == '=')) = true := by
        intro d hdn
        have hd := hg d (List.mem_cons_of_mem _ hdn)
        simp [hd.1, hd.2]
      have ht : (n ++ '=' :: rest).takeWhile (fun d => !(endsName d || d == '=')) = n := by
        rw [List.takeWhile_append_of_pos hp, List.takeWhile_cons_of_neg (by decide),
          List.append_nil]
      have hr : (n ++ '=' :: rest).dropWhile (fun d => !(endsName d || d == '=')) = '=' :: rest := by
        rw [List.dropWhile_append_of_pos hp, List.dropWhile_cons_of_neg (by decide)]
      have he : ('=' :: rest).dropWhile isSpace = '=' :: rest :=
        List.dropWhile_cons_of_neg (by decide)
      rw [attributes?, hd]
      split
      · next h => cases h
      · next h => exact absurd (List.cons.inj h).1 hb
      · next h => exact absurd (List.cons.inj h).1 hslash
      · next h => exact absurd (List.cons.inj h).1 hslash
      · next c' r _ _ _ h =>
          obtain ⟨rfl, rfl⟩ := List.cons.inj h
          simp only [ht, hr, he] <;> rfl

theorem prefix_addAttribute (as : List Attribute) (name : Text) (value : String) :
    as <+: addAttribute as name value := by
  rw [addAttribute]
  split
  · exact List.prefix_refl _
  · exact List.prefix_append ..

/-- Attributes that have been read stay in front. -/
theorem prefix_attributes? {as bs : List Attribute} {rounds : Nat} {t rest : Text} {closing : Bool}
    (h : attributes? as rounds t = some (bs, closing, rest)) : as <+: bs := by
  induction rounds generalizing as t with
  | zero => cases h
  | succ rounds ih =>
      rw [attributes?] at h
      split at h
      · cases h
      · cases h
        exact List.prefix_refl _
      · cases h
        exact List.prefix_refl _
      · exact ih h
      · dsimp only at h
        split at h
        · split at h
          · cases h
          · exact (prefix_addAttribute as _ _).trans (ih h)
        · exact (prefix_addAttribute as _ _).trans (ih h)

theorem addAttribute_of_not_mem {name : String} (h : IsName name) {as : List Attribute}
    (ha : name ∉ as.map (·.name)) (value : String) :
    addAttribute as name.toList value = as ++ [⟨name, value, ""⟩] := by
  rw [addAttribute, h.lower, if_neg]
  rw [List.any_eq_true]
  rintro ⟨a, ham, he⟩
  exact ha (List.mem_map.2 ⟨a, ham, eq_of_beq he⟩)

theorem attributes?_spell {name : String} (h : IsName name) {w : Text} (hw : '"' ∉ w)
    {as : List Attribute} (ha : name ∉ as.map (·.name)) (rounds : Nat) (rest : Text) :
    attributes? as (rounds + 1) (spell name w ++ rest) =
      attributes? (as ++ [⟨name, valueOf w, ""⟩]) rounds rest := by
  have hs : spell name w ++ rest = ' ' :: name.toList ++ '=' :: ('"' :: (w ++ '"' :: rest)) := by
    simp [spell]
  have hp : ∀ c ∈ w, decide (c ≠ '"') = true := by
    intro c hc
    rw [decide_eq_true_eq]
    rintro rfl
    exact hw hc
  have hd : (w ++ '"' :: rest).dropWhile (· ≠ '"') = '"' :: rest := by
    rw [List.dropWhile_append_of_pos hp, List.dropWhile_cons_of_neg (by decide)]
  have ht : (w ++ '"' :: rest).takeWhile (· ≠ '"') = w := by
    rw [List.takeWhile_append_of_pos hp, List.takeWhile_cons_of_neg (by decide), List.append_nil]
  have hv : attributeValue? ('"' :: (w ++ '"' :: rest)) = some (valueOf w, rest) := by
    have he : ('"' :: (w ++ '"' :: rest)).dropWhile isSpace = '"' :: (w ++ '"' :: rest) :=
      List.dropWhile_cons_of_neg (by decide)
    rw [attributeValue?, he]
    simp only [hd, ht]
  rw [hs, attributes?_name h, hv]
  exact congrArg (attributes? · rounds rest) (addAttribute_of_not_mem h ha _)

/-- The attributes of a tag. -/
def attributesOf (sp : List (String × Text)) : List Attribute :=
  sp.map fun s => ⟨s.1, valueOf s.2, ""⟩

theorem attributes?_append {sp : List (String × Text)} (hn : ∀ s ∈ sp, IsName s.1)
    (hq : ∀ s ∈ sp, '"' ∉ s.2) {as : List Attribute}
    (hd : (as.map (·.name) ++ sp.map (·.1)).Nodup) (rounds : Nat) (rest : Text) :
    attributes? as (rounds + sp.length) ((sp.flatMap fun s => spell s.1 s.2) ++ rest) =
      attributes? (as ++ attributesOf sp) rounds rest := by
  induction sp generalizing as with
  | nil =>
      rw [attributesOf, List.map_nil, List.append_nil]
      rfl
  | cons s sp ih =>
      have hs : s.1 ∉ as.map (·.name) := by
        intro hm
        exact (List.nodup_append.1 hd).2.2 _ hm _ (List.mem_cons_self ..) rfl
      have hd' : ((as ++ [(⟨s.1, valueOf s.2, ""⟩ : Attribute)]).map (·.name) ++
          sp.map (·.1)).Nodup := by
        rw [List.map_append, List.append_assoc]
        exact hd
      have ih := ih (fun t ht => hn t (List.mem_cons_of_mem _ ht))
        (fun t ht => hq t (List.mem_cons_of_mem _ ht)) hd'
      rw [List.flatMap_cons, List.append_assoc, List.length_cons, ← Nat.add_assoc,
        attributes?_spell (hn s (List.mem_cons_self ..)) (hq s (List.mem_cons_self ..)) hs, ih,
        List.append_assoc]
      rfl

theorem attributes?_spellRest {sp : List (String × Text)} (hn : ∀ s ∈ sp, IsName s.1)
    (hq : ∀ s ∈ sp, '"' ∉ s.2) (hd : (sp.map (·.1)).Nodup) {rounds : Nat}
    (hr : sp.length < rounds) (rest : Text) :
    attributes? [] rounds (spellRest sp ++ rest) = some (attributesOf sp, false, rest) := by
  obtain ⟨k, rfl⟩ : ∃ k, rounds = k + 1 + sp.length := ⟨rounds - 1 - sp.length, by omega⟩
  have hd' : (([] : List Attribute).map (·.name) ++ sp.map (·.1)).Nodup := hd
  rw [spellRest_concat, List.append_assoc, attributes?_append hn hq hd',
    List.nil_append]
  rfl

/-! ## Tags -/

theorem isName_tag {name : String} (h : name ∈ AllowList.story.tags) : IsName name := by
  have hall : AllowList.story.tags.all spellsName = true := by decide
  exact .of_spellsName (List.all_eq_true.1 hall name h)

theorem tag?_name {name : String} (h : IsName name) {x : Char} (hx : endsName x = true) (r : Text) :
    tag? (name.toList ++ x :: r) =
      (attributes? [] (r.length + 2) (x :: r)).map fun (as, closing, rest) =>
        (name, as, closing, rest) := by
  have hp : ∀ c ∈ name.toList, (!endsName c) = true := by
    intro c hc
    rw [(h.goesOn c hc).1]
    rfl
  have hd : (name.toList ++ x :: r).dropWhile (fun c => !endsName c) = x :: r := by
    rw [List.dropWhile_append_of_pos hp, List.dropWhile_cons_of_neg (by simp [hx])]
  have ht : (name.toList ++ x :: r).takeWhile (fun c => !endsName c) = name.toList := by
    rw [List.takeWhile_append_of_pos hp, List.takeWhile_cons_of_neg (by simp [hx]),
      List.append_nil]
  rw [tag?, hd]
  simp only [ht, h.lower, List.length_cons]

theorem head_tag {name : String} (h : name ∈ AllowList.story.tags) :
    ∃ c r, name.toList = c :: r ∧ c.isAlpha = true := by
  have hall : AllowList.story.tags.all (fun n => n.toList.head?.any Char.isAlpha) = true := by decide
  have hn := List.all_eq_true.1 hall name h
  cases hl : name.toList with
  | nil =>
      rw [hl] at hn
      cases hn
  | cons c r =>
      rw [hl] at hn
      exact ⟨c, r, rfl, hn⟩

theorem nextOrdinary_start {name : String} (h : name ∈ AllowList.story.tags) (r : Text) :
    nextOrdinary false ('<' :: name.toList ++ r) = startTagToken (name.toList ++ r) := by
  obtain ⟨c, n, hn, ha⟩ := head_tag h
  have hm : nextOrdinary false ('<' :: name.toList ++ r) = markup false (name.toList ++ r) := rfl
  have hne (x : Char) (hx : x.isAlpha = false) : c ≠ x := by
    rintro rfl
    rw [ha] at hx
    cases hx
  rw [hm, hn, List.cons_append, markup]
  · rw [if_pos ha]
  · exact hne '!' (by decide)
  · exact hne '?' (by decide)
  · exact fun s hs => absurd hs (hne '/' (by decide))
  · exact fun d s hs => absurd hs (hne '/' (by decide))
  · exact fun hs => absurd hs (hne '/' (by decide))

theorem nextOrdinary_openTag {name : String} (h : name ∈ AllowList.story.tags)
    {sp : List (String × Text)} (hn : ∀ s ∈ sp, IsName s.1) (hq : ∀ s ∈ sp, '"' ∉ s.2)
    (hd : (sp.map (·.1)).Nodup) (rest : Text) :
    nextOrdinary false (openTag name sp ++ rest) =
      (some (startTag name (attributesOf sp) false), rest) := by
  have hs : openTag name sp ++ rest = '<' :: name.toList ++ (spellRest sp ++ rest) := by
    rw [openTag, List.append_assoc]
  obtain ⟨x, r, hr, hx⟩ := head_spellRest sp
  have he : endsName x = true := by
    rcases hx with rfl | rfl
    · decide
    · decide
  have hl : sp.length < (r ++ rest).length + 2 := by
    have hlen := length_le_spells sp
    have hrest := congrArg List.length (spellRest_concat sp)
    rw [hr, List.length_cons, List.length_append, List.length_singleton] at hrest
    rw [List.length_append]
    omega
  have ha := attributes?_spellRest hn hq hd hl rest
  rw [hr, List.cons_append] at ha
  rw [hs, nextOrdinary_start h, hr, List.cons_append, startTagToken, tag?_name (isName_tag h) he, ha]
  rfl

theorem nextOrdinary_stop {name : String} (h : name ∈ AllowList.story.tags) (rest : Text) :
    nextOrdinary false (Tag.write (.stop name) ++ rest) = (some (endTag name), rest) := by
  obtain ⟨c, n, hn, ha⟩ := head_tag h
  have hs : Tag.write (.stop name) ++ rest = '<' :: '/' :: (name.toList ++ '>' :: rest) := by
    simp [Tag.write]
  have hm (r : Text) : nextOrdinary false ('<' :: '/' :: (name.toList ++ r)) =
      endTagToken (name.toList ++ r) := by
    have hg : nextOrdinary false ('<' :: '/' :: (name.toList ++ r)) =
      markup false ('/' :: (name.toList ++ r)) := rfl
    have hc : c ≠ '>' := by
      rintro rfl
      exact absurd ha (by decide)
    rw [hg, hn, List.cons_append, markup]
    · rw [if_pos ha]
    · exact hc
  have he : attributes? [] (rest.length + 2) ('>' :: rest) = some ([], false, rest) := rfl
  rw [hs, hm, endTagToken, tag?_name (isName_tag h) (by decide), he]
  rfl

end Token
end Gamebook.Html
