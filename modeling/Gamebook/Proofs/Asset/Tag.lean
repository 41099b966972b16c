import Mathlib.Data.List.Induction
import Gamebook.Proofs.Asset.Quoted

/-!
# Resolving the text of a tag

The text of a tag is resolved as its element is, unless a value hides the class attribute of an
element that is to be marked.
-/

namespace Gamebook.Asset

open Html Text

/-!
## Media elements with placeholders

What resolving does to a media element: its source becomes the address of the file, or it is marked
as one whose file is missing. The mark goes to the class attribute, which is looked for in the text of
the tag; a value that ends like the start of a class attribute is taken for one.
-/

/-- Whether an element shows an asset. -/
def isMedia (e : Element) : Bool := ["img", "video"].contains e.name

/-- The name behind the scheme of placeholders in the source of an element. -/
def placeholder? (as : List Attribute) : Option Text :=
  as.findSome? fun a =>
    if a.name = "src" then Text.after? "asset:".toList a.value.toList else none

/-- Attributes with an address for the source. -/
def withSource (address : String) (as : List Attribute) : List Attribute :=
  as.map fun a => if a.name = "src" then { a with value := address } else a

/-- Attributes with the class of a missing file. -/
def withMissing (as : List Attribute) : List Attribute :=
  if as.any fun a => a.name == "class" then
    as.map fun a =>
      if a.name = "class" then { a with value := a.value ++ " " ++ missingClass } else a
  else as ++ [⟨"class", missingClass, ""⟩]

/-- Attributes with the placeholder of their source resolved. -/
def resolveAttributes (c : Catalog) (as : List Attribute) : List Attribute :=
  match placeholder? as with
  | none => as
  | some name =>
    match c.address? (String.ofList name) with
    | some address => withSource address as
    | none => withMissing as

/-- An element with the placeholder of its source resolved, if it shows an asset. -/
def resolveElement (c : Catalog) (e : Element) : Element :=
  if isMedia e then { e with attributes := resolveAttributes c e.attributes } else e

/-- Whether a value ends as a class attribute starts. -/
def endsInClass (value : String) : Bool := "class=".toList.isSuffixOf value.toList

/-- Whether a value in front of the class attribute, and in front of some other attribute, is taken for
its start. -/
def hidesClass : List Attribute → Bool
  | [] => false
  | a :: as => a.name != "class" && ((endsInClass a.value && !as.isEmpty) || hidesClass as)

/-- Whether the tag of an element is misread when it is marked: it has a placeholder without a file, and
a value is taken for the start of its class attribute. -/
def isMisread (c : Catalog) (e : Element) : Bool :=
  isMedia e && hidesClass e.attributes
    && (placeholder? e.attributes).any fun name => (c.address? (String.ofList name)).isNone

/-! ## Spellings -/

/-- Attributes with the spelling of one of them changed. -/
def respell (key : String) (f : Text → Text) (as : List (String × Text)) : List (String × Text) :=
  as.map fun a => if a.1 = key then (a.1, f a.2) else a

theorem respell_cons (key : String) (f : Text → Text) (a : String × Text)
    (as : List (String × Text)) :
    respell key f (a :: as) = (if a.1 = key then (a.1, f a.2) else a) :: respell key f as := rfl

theorem respell_of_not_mem {key : String} {as : List (String × Text)} (f : Text → Text)
    (h : key ∉ as.map (·.1)) : respell key f as = as := by
  induction as with
  | nil => rfl
  | cons a as ih =>
      rw [List.map_cons, List.mem_cons, not_or] at h
      rw [respell_cons, if_neg (Ne.symm h.1), ih h.2]

theorem not_quote_of_mem {name : String} (h : name ∈ storyNames) : '"' ∉ name.toList := by
  have hall : storyNames.all (fun n => !n.toList.contains '"') = true := by decide
  simpa using List.all_eq_true.1 hall name h

theorem not_quote_escape (t : Text) : '"' ∉ escape true t := avoids_value.not_mem (by decide) t

/-! ## The source -/

theorem sourceOpening_eq : sourceOpening.toList = "src".toList ++ '=' :: '"' :: "asset:".toList := by
  decide

theorem classOpening_eq : classOpening.toList = "class".toList ++ '=' :: '"' :: [] := by
  decide

theorem suffix_source {name : String} (h : name ∈ storyNames)
    (hs : "src".toList <:+ ' ' :: name.toList) : name = "src" := by
  have hall : storyNames.all (fun n =>
      !"src".toList.isSuffixOf (' ' :: n.toList) || n == "src") = true := by decide
  have hn := List.all_eq_true.1 hall name h
  rw [List.isSuffixOf_iff_suffix.2 hs] at hn
  exact eq_of_beq hn

theorem suffix_class {name : String} (h : name ∈ storyNames)
    (hs : "class".toList <:+ ' ' :: name.toList) : name = "class" := by
  have hall : storyNames.all (fun n =>
      !"class".toList.isSuffixOf (' ' :: n.toList) || n == "class") = true := by decide
  have hn := List.all_eq_true.1 hall name h
  rw [List.isSuffixOf_iff_suffix.2 hs] at hn
  exact eq_of_beq hn

theorem escape_plain {t : Text} (ht : ∀ c ∈ t, c ∉ ['&', '<', '>', '"', '\u00a0']) :
    escape true t = t :=
  (faithful_writeChar true).flatMap_eq ht

/-- A text that needs no references starts an escaped text if it starts the text. -/
theorem after?_escape {pre : Text} (hp : ∀ c ∈ pre, c ∉ ['&', '<', '>', '"', '\u00a0']) (t rest : Text) :
    after? pre (escape true t ++ '"' :: rest) =
      (after? pre t).map fun r => escape true r ++ '"' :: rest := by
  induction pre generalizing t with
  | nil => cases t <;> rfl
  | cons p pre ih =>
      have hp' : ∀ c ∈ pre, c ∉ ['&', '<', '>', '"', '\u00a0'] := fun c hc =>
        hp c (List.mem_cons_of_mem _ hc)
      have hpp := hp p (List.mem_cons_self ..)
      cases t with
      | nil =>
          have hne : p ≠ '"' := by
            rintro rfl
            exact hpp (by decide)
          have ha : after? (p :: pre) ('"' :: rest) = none := by rw [after?, if_neg hne]
          exact ha
      | cons c t =>
          rw [escape_cons]
          by_cases hc : p = c
          · subst hc
            rw [(faithful_writeChar true).write_eq hpp, List.append_assoc, List.singleton_append,
              after?, if_pos rfl, ih hp', after?, if_pos rfl]
          · rw [after?, if_neg hc, Option.map_none]
            rcases faithful_writeChar true c with ⟨hw, -⟩ | ⟨name, -, hw⟩
            · rw [hw, List.append_assoc, List.singleton_append, after?, if_neg hc]
            · have hne : p ≠ '&' := by
                rintro rfl
                exact hpp (by decide)
              rw [hw, List.cons_append, List.cons_append, List.cons_append, after?, if_neg hne]

theorem asset_plain : ∀ c ∈ "asset:".toList, c ∉ ['&', '<', '>', '"', '\u00a0'] :=
  fun c hc => by
    have hall : "asset:".toList.all (fun c =>
        !(['&', '<', '>', '"', '\u00a0'].contains c)) = true := by decide
    simpa using List.all_eq_true.1 hall c hc

/-- The name of an attribute's placeholder. -/
def named? (a : Attribute) : Option Text :=
  if a.name = "src" then after? "asset:".toList a.value.toList else none

theorem placeholder?_cons (a : Attribute) (as : List Attribute) :
    placeholder? (a :: as) = (named? a).or (placeholder? as) := by
  have hp (bs : List Attribute) : placeholder? bs = bs.findSome? named? := rfl
  rw [hp, hp, List.findSome?_cons]
  cases named? a with
  | none => rfl
  | some name => rfl

theorem quoted?_source_none {a : Attribute} (ha : a.name ∈ storyNames) (hn : named? a = none)
    (as : List (String × Text)) :
    ∀ s, s ≠ [] → s <:+ spell a.name (escape true a.value.toList) →
      quoted? sourceOpening (s ++ spellRest as) = none := by
  intro s hs hsuf
  refine quoted?_spell sourceOpening_eq (by decide) (not_quote_of_mem ha)
    (not_quote_escape _) (fun h => ?_) (fun _ => ?_) hs hsuf
  · rw [named?, if_pos (suffix_source ha h)] at hn
    rw [after?_escape asset_plain, hn, Option.map_none]
  · have hr : after? sourceOpening.toList ("src".toList ++ '=' :: '"' :: spellRest as) = none := by
      obtain ⟨c, r, hr, rfl | rfl⟩ := head_spellRest as
      · rw [hr]
        rfl
      · rw [hr]
        rfl
    rw [quoted?, hr]
    rfl

theorem named?_eq_some {a : Attribute} {name : Text} (h : named? a = some name) :
    a.name = "src" ∧ escape true a.value.toList = "asset:".toList ++ escape true name := by
  rw [named?] at h
  split at h
  · next ha =>
      refine ⟨ha, ?_⟩
      rw [after?_eq_some h, escape_append, escape_plain asset_plain]
  · cases h

/-- The value of an attribute that is found where its name begins. -/
theorem splitFirst?_space {opening : String} {c : Char} {o : Text} (ho : opening.toList = c :: o)
    (hc : c ≠ ' ') {value : Text} (hv : '"' ∉ value) (rest : Text) :
    splitFirst? (quoted? opening) (' ' :: (opening.toList ++ (value ++ '"' :: rest))) =
      some ([' '], value, rest) := by
  have hn (t : Text) : quoted? opening (' ' :: t) = none := by
    rw [quoted?, ho, after?, if_neg hc]
    rfl
  have hne : opening.toList ++ (value ++ '"' :: rest) ≠ [] := by
    rw [ho]
    exact List.cons_ne_nil _ _
  rw [splitFirst?, hn, splitFirst?_here hne (quoted?_eq_some hv rest)]
  rfl

theorem mem_of_placeholder? {as : List Attribute} {name : Text} (h : placeholder? as = some name) :
    "src" ∈ as.map (·.name) := by
  obtain ⟨a, ha, hn⟩ := List.exists_of_findSome?_eq_some h
  by_cases hs : a.name = "src"
  · exact hs ▸ List.mem_map_of_mem ha
  · rw [if_neg hs] at hn
    cases hn

theorem splitFirst?_source_none {as : List Attribute} (h : Spelled as)
    (hp : placeholder? as = none) :
    splitFirst? (quoted? sourceOpening) (spellRest (spellings as)) = none := by
  induction as with
  | nil => rfl
  | cons a as ih =>
      rw [placeholder?_cons, Option.or_eq_none_iff] at hp
      have hn := quoted?_source_none (h.names a (List.mem_cons_self ..)) hp.1 (spellings as)
      have hs := splitFirst?_append (spellRest (spellings as)) hn
      rw [ih h.tail hp.2] at hs
      exact hs

/-- The placeholder that is found in the attributes of a tag is that of its source. -/
theorem splitFirst?_source {as : List Attribute} (h : Spelled as) {name : Text}
    (hp : placeholder? as = some name) :
    ∃ before rest, splitFirst? (quoted? sourceOpening) (spellRest (spellings as)) =
        some (before, escape true name, rest) ∧
      ∀ new, before ++ "src=\"".toList ++ new ++ '"' :: rest =
        spellRest (respell "src" (fun _ => new) (spellings as)) := by
  induction as with
  | nil => cases hp
  | cons a as ih =>
      have hname := h.names a (List.mem_cons_self ..)
      rw [placeholder?_cons] at hp
      cases hn : named? a with
      | none =>
          rw [hn, Option.none_or] at hp
          obtain ⟨before, rest, hf, hr⟩ := ih h.tail hp
          have hs := splitFirst?_append (spellRest (spellings as))
            (quoted?_source_none hname hn (spellings as))
          rw [hf] at hs
          refine ⟨_, rest, hs, fun new => ?_⟩
          have ha : a.name ≠ "src" := fun he => h.not_mem (he ▸ mem_of_placeholder? hp)
          rw [spellings_cons, respell_cons, if_neg ha, spellRest]
          simp only [List.append_assoc] at hr ⊢
          exact congrArg _ (hr new)
      | some found =>
          rw [hn, Option.some_or, Option.some.injEq] at hp
          subst hp
          obtain ⟨ha, hv⟩ := named?_eq_some hn
          have hs := splitFirst?_space (c := 's') sourceOpening_eq (by decide)
            (not_quote_escape found) (spellRest (spellings as))
          have hm : "src" ∉ (spellings as).map (·.1) := by
            rw [names_spellings, ← ha]
            exact h.not_mem
          refine ⟨[' '], spellRest (spellings as), ?_, fun new => ?_⟩
          · have he : spellRest (spellings (a :: as)) = ' ' :: (sourceOpening.toList ++
                (escape true found ++ '"' :: spellRest (spellings as))) := by
              rw [spellings_cons, spellRest, ha, hv, sourceOpening_eq]
              simp [spell]
            rw [he, hs]
          · rw [spellings_cons, respell_cons, if_pos ha, ha, respell_of_not_mem _ hm, spellRest]
            simp [spell]

/-! ## The class -/

/-- An escaped text ends in a text that needs no references if the text does. -/
theorem suffix_escape {k : Text} (hk : ∀ c ∈ k, c ∉ ['&', '<', '>', '"', '\u00a0', ';']) {v : Text}
    (h : k <:+ escape true v) : k <:+ v := by
  obtain ⟨u, hu⟩ := h
  induction v using List.reverseRecOn generalizing k u with
  | nil => exact ⟨u, hu⟩
  | append_singleton v c ih =>
      rcases List.eq_nil_or_concat k with rfl | ⟨k, p, rfl⟩
      · exact List.nil_suffix
      rw [List.concat_eq_append] at hk hu ⊢
      have hp := hk p (List.mem_append_right _ (List.mem_singleton.2 rfl))
      have he : escape true (v ++ [c]) = escape true v ++ writeChar true c := by
        rw [escape_append, escape_cons, escape_nil, List.append_nil]
      rw [he, ← List.append_assoc] at hu
      rcases faithful_writeChar true c with ⟨hw, -⟩ | ⟨name, -, hw⟩
      · rw [hw] at hu
        obtain ⟨hv, hc⟩ := List.append_inj' hu rfl
        obtain ⟨w, hw⟩ := ih (fun d hd => hk d (List.mem_append_left _ hd)) u hv
        exact ⟨w, by rw [← List.append_assoc, hw, hc]⟩
      · rw [hw, ← List.append_assoc] at hu
        have hc := (List.append_inj' hu rfl).2
        rw [List.cons.injEq] at hc
        exact absurd hc.1 (fun h => hp (by rw [h]; decide))

theorem class_plain : ∀ c ∈ "class=".toList, c ∉ ['&', '<', '>', '"', '\u00a0', ';'] :=
  fun c hc => by
    have hall : "class=".toList.all (fun c =>
        !(['&', '<', '>', '"', '\u00a0', ';'].contains c)) = true := by decide
    simpa using List.all_eq_true.1 hall c hc

theorem endsInClass_of_suffix {a : Attribute}
    (h : "class".toList ++ ['='] <:+ escape true a.value.toList) : endsInClass a.value = true :=
  List.isSuffixOf_iff_suffix.2 (suffix_escape class_plain h)

/-- A value that ends as a class attribute starts does so in the text of its tag. -/
theorem escape_of_endsInClass {a : Attribute} (h : endsInClass a.value = true) :
    ∃ x, escape true a.value.toList = escape true x ++ "class=".toList := by
  obtain ⟨x, hx⟩ := List.isSuffixOf_iff_suffix.1 h
  refine ⟨x, ?_⟩
  have hp : ∀ c ∈ "class=".toList, c ∉ ['&', '<', '>', '"', '\u00a0'] := by
    intro c hc hm
    exact class_plain c hc (List.mem_append_left [';'] hm)
  rw [← hx, escape_append, escape_plain hp]

/-- No class is found in an attribute that is none and that hides none. -/
theorem quoted?_class_none {a : Attribute} (ha : a.name ∈ storyNames) (hn : a.name ≠ "class")
    {as : List Attribute} (hh : endsInClass a.value = true → as = []) :
    ∀ s, s ≠ [] → s <:+ spell a.name (escape true a.value.toList) →
      quoted? classOpening (s ++ spellRest (spellings as)) = none := by
  intro s hs hsuf
  refine quoted?_spell classOpening_eq (by decide) (not_quote_of_mem ha) (not_quote_escape _)
    (fun h => absurd (suffix_class ha h) hn) (fun h => ?_) hs hsuf
  rw [hh (endsInClass_of_suffix h)]
  decide

theorem hidesClass_cons (a : Attribute) (as : List Attribute) :
    hidesClass (a :: as) = (a.name != "class" &&
      ((endsInClass a.value && !as.isEmpty) || hidesClass as)) := rfl

theorem hidesClass_eq_false {a : Attribute} {as : List Attribute} (hn : a.name ≠ "class")
    (h : hidesClass (a :: as) = false) :
    (endsInClass a.value = true → as = []) ∧ hidesClass as = false := by
  rw [hidesClass_cons, Bool.and_eq_false_iff] at h
  rcases h with h | h
  · exact absurd h (by simp [hn])
  · rw [Bool.or_eq_false_iff, Bool.and_eq_false_iff] at h
    refine ⟨fun he => ?_, h.2⟩
    rcases h.1 with hv | hv
    · exact absurd (hv.symm.trans he) (by decide)
    · cases as with
      | nil => rfl
      | cons b as => cases hv

theorem splitFirst?_class_none {as : List Attribute} (h : Spelled as) (hh : hidesClass as = false)
    (hc : "class" ∉ as.map (·.name)) :
    splitFirst? (quoted? classOpening) (spellRest (spellings as)) = none := by
  induction as with
  | nil => decide
  | cons a as ih =>
      rw [List.map_cons, List.mem_cons, not_or] at hc
      obtain ⟨hv, hh⟩ := hidesClass_eq_false (Ne.symm hc.1) hh
      have hs := splitFirst?_append (spellRest (spellings as))
        (quoted?_class_none (h.names a (List.mem_cons_self ..)) (Ne.symm hc.1) hv)
      rw [ih h.tail hh hc.2] at hs
      exact hs

/-- The class that is found in the attributes of a tag is theirs if no value hides it. -/
theorem splitFirst?_class {as : List Attribute} (h : Spelled as) (hh : hidesClass as = false)
    (hc : "class" ∈ as.map (·.name)) :
    ∃ before value rest, splitFirst? (quoted? classOpening) (spellRest (spellings as)) =
        some (before, value, rest) ∧
      ∀ more, before ++ classOpening.toList ++ value ++ (more ++ '"' :: rest) =
        spellRest (respell "class" (· ++ more) (spellings as)) := by
  induction as with
  | nil => cases hc
  | cons a as ih =>
      by_cases ha : a.name = "class"
      · have hs := splitFirst?_space (c := 'c') classOpening_eq (by decide)
          (not_quote_escape a.value.toList) (spellRest (spellings as))
        have hm : "class" ∉ (spellings as).map (·.1) := by
          rw [names_spellings, ← ha]
          exact h.not_mem
        have he : spellRest (spellings (a :: as)) = ' ' :: (classOpening.toList ++
            (escape true a.value.toList ++ '"' :: spellRest (spellings as))) := by
          rw [spellings_cons, spellRest, ha, classOpening_eq]
          simp [spell]
        refine ⟨[' '], escape true a.value.toList, spellRest (spellings as), he ▸ hs, fun more => ?_⟩
        rw [spellings_cons, respell_cons, if_pos ha, ha, respell_of_not_mem _ hm, spellRest,
          classOpening_eq]
        simp [spell]
      · rw [List.map_cons, List.mem_cons] at hc
        obtain ⟨hv, hh⟩ := hidesClass_eq_false ha hh
        obtain ⟨before, value, rest, hf, hr⟩ := ih h.tail hh (hc.resolve_left (Ne.symm ha))
        have hs := splitFirst?_append (spellRest (spellings as))
          (quoted?_class_none (h.names a (List.mem_cons_self ..)) ha hv)
        rw [hf] at hs
        refine ⟨_, value, rest, hs, fun more => ?_⟩
        rw [spellings_cons, respell_cons, if_neg ha, spellRest]
        simp only [List.append_assoc] at hr ⊢
        exact congrArg _ (hr more)

/-- No class is found in front of the end of a value that hides it. -/
theorem quoted?_class_before {name : String} (hname : name ∈ storyNames) (hn : name ≠ "class")
    {x : Text} (hx : '"' ∉ x) (rest : Text) :
    ∀ s, s ≠ [] → s <:+ ' ' :: name.toList ++ '=' :: '"' :: x →
      quoted? classOpening (s ++ (classOpening.toList ++ rest)) = none := by
  intro s hs hsuf
  have ho : classOpening.toList = "class=".toList ++ '"' :: [] := classOpening_eq
  refine quoted?_eq_none ho (by decide) ?_
  rcases suffix_append_cases hsuf with hsuf | ⟨n, -, hnsuf, rfl⟩
  · rcases List.suffix_cons_iff.1 hsuf with rfl | hsuf
    · have ht := takeWhile_quote (x := ['=']) (by decide) (x ++ (classOpening.toList ++ rest))
      exact fun h => absurd (ht.symm.trans h) (by decide)
    · rcases List.suffix_cons_iff.1 hsuf with rfl | hsuf
      · have ht := takeWhile_quote (x := []) (by decide) (x ++ (classOpening.toList ++ rest))
        exact fun h => absurd (ht.symm.trans h) (by decide)
      · have hq : '"' ∉ s ++ "class=".toList := by
          rw [List.mem_append, not_or]
          exact ⟨fun hm => hx (hsuf.mem hm), by decide⟩
        have ht := takeWhile_quote hq rest
        have he : s ++ (classOpening.toList ++ rest) = s ++ "class=".toList ++ '"' :: rest := by
          rw [ho]
          simp
        rw [he, ht]
        intro h
        exact hs (List.append_left_eq_self.1 h)
  · have hq : '"' ∉ n ++ ['='] := by
      rw [List.mem_append, not_or]
      refine ⟨fun hm => ?_, by decide⟩
      rcases List.mem_cons.1 (hnsuf.mem hm) with h | h
      · exact absurd h (by decide)
      · exact not_quote_of_mem hname h
    have ht := takeWhile_quote hq (x ++ (classOpening.toList ++ rest))
    have he : n ++ '=' :: '"' :: x ++ (classOpening.toList ++ rest) =
        n ++ ['='] ++ '"' :: (x ++ (classOpening.toList ++ rest)) := by simp
    rw [he, ht]
    intro h
    have hc : "class=".toList = "class".toList ++ ['='] := by decide
    rw [hc] at h
    exact hn (suffix_class hname (List.append_cancel_right h ▸ hnsuf))

/-- The value of a class that is taken for one when it is marked, in the text of a tag: the mark goes
behind the equals sign of the next attribute. -/
def misspell (pre : List (String × Text)) (a b : String × Text) (post : List (String × Text)) :
    Text :=
  ((pre ++ [a]).flatMap fun x => spell x.1 x.2) ++ ' ' :: b.1.toList ++ '=' :: ' ' ::
    missingClass.toList ++ '"' :: b.2 ++ '"' :: spellRest post

/-- Behind a value that looks like the name of the class, the next attribute is taken for it. -/
theorem splitFirst?_endsInClass {a b : Attribute} {post : List Attribute}
    (h : Spelled (a :: b :: post)) (hn : a.name ≠ "class") (hv : endsInClass a.value = true) :
    ∃ before value rest, splitFirst? (quoted? classOpening) (spellRest (spellings (a :: b :: post))) =
        some (before, value, rest) ∧
      before ++ classOpening.toList ++ value ++ ' ' :: missingClass.toList ++ '"' :: rest =
        misspell (spellings []) (a.name, escape true a.value.toList)
          (b.name, escape true b.value.toList) (spellings post) := by
  obtain ⟨x, hx⟩ := escape_of_endsInClass hv
  have hb := not_quote_of_mem (h.tail.names b (List.mem_cons_self ..))
  have hq : '"' ∉ ' ' :: b.name.toList ++ ['='] := by
    rw [List.mem_append, List.mem_cons, not_or, not_or]
    exact ⟨⟨by decide, hb⟩, by decide⟩
  have hs := splitFirst?_append _ (quoted?_class_before (h.names a (List.mem_cons_self ..))
    hn (not_quote_escape x) (' ' :: b.name.toList ++ ['='] ++
      '"' :: (escape true b.value.toList ++ '"' :: spellRest (spellings post))))
  rw [splitFirst?_here (by simp [classOpening]) (quoted?_eq_some hq _)] at hs
  refine ⟨_, _, _, Eq.trans (congrArg _ ?_) hs, ?_⟩
  · rw [spellings_cons, spellings_cons, spellRest, spellRest, hx, classOpening_eq]
    simp [spell]
  · rw [misspell, hx, classOpening_eq]
    simp [spell, spellings]

/-- Where a value hides the class, the next attribute is taken for it. -/
theorem splitFirst?_hidden {as : List Attribute} (h : Spelled as) (hh : hidesClass as = true) :
    ∃ pre a b post, as = pre ++ a :: b :: post ∧ ∃ before value rest,
      splitFirst? (quoted? classOpening) (spellRest (spellings as)) = some (before, value, rest) ∧
      before ++ classOpening.toList ++ value ++ ' ' :: missingClass.toList ++ '"' :: rest =
        misspell (spellings pre) (a.name, escape true a.value.toList)
          (b.name, escape true b.value.toList) (spellings post) := by
  induction as with
  | nil => cases hh
  | cons a as ih =>
      rw [hidesClass_cons, Bool.and_eq_true] at hh
      obtain ⟨hn, hh⟩ := hh
      have hn : a.name ≠ "class" := by simpa using hn
      by_cases hv : endsInClass a.value = true ∧ as ≠ []
      · cases as with
        | nil => exact absurd rfl hv.2
        | cons b post => exact ⟨[], a, b, post, rfl, splitFirst?_endsInClass h hn hv.1⟩
      · have hh' : hidesClass as = true := by
          rcases Bool.or_eq_true_iff.1 hh with h | h
          · rw [Bool.and_eq_true] at h
            exact absurd ⟨h.1, by rintro rfl; exact absurd h.2 (by decide)⟩ hv
          · exact h
        obtain ⟨pre, c, b, post, rfl, before, value, rest, hf, hr⟩ := ih h.tail hh'
        have hs := splitFirst?_append _ (quoted?_class_none (h.names a (List.mem_cons_self ..)) hn
          fun he => (absurd ⟨he, by simp⟩ hv : pre ++ c :: b :: post = []))
        rw [hf] at hs
        refine ⟨a :: pre, c, b, post, rfl, _, value, rest, hs, ?_⟩
        rw [misspell] at hr ⊢
        rw [spellings_cons, List.cons_append, List.flatMap_cons]
        simp only [List.append_assoc, List.cons_append] at hr ⊢
        rw [hr]

end Gamebook.Asset
