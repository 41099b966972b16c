import Gamebook.Proofs.Asset.Quoted
import Gamebook.Proofs.Asset.Sources
import Gamebook.Terminal.PlainText

/-!
# The text of an image

The text of an image is looked for from the end of the tag's attributes. It is found where the last
attribute name is that is the one looked for, or seems to be: a value that ends in that name and a sign
is followed by a quotation mark just as the name is.
-/

namespace Gamebook

open Html Text

/-- A character that no reference ends with is written as it is at the end of a text. -/
theorem Html.Faithful.concat {f : Char → Text} (hf : Faithful f) {u v : Text} {c : Char} (hc : c ≠ ';')
    (h : v.flatMap f = u ++ [c]) : ∃ v', v = v' ++ [c] ∧ u = v'.flatMap f := by
  cases v using List.reverseRecOn with
  | nil => simp at h
  | append_singleton v d _ =>
      rw [List.flatMap_append, List.flatMap_singleton] at h
      rcases hf d with ⟨hd, -⟩ | ⟨n, -, hd⟩
      · rw [hd] at h
        obtain ⟨rfl, he⟩ := List.append_inj' h rfl
        cases he
        exact ⟨v, rfl, rfl⟩
      · rw [hd, ← List.append_assoc] at h
        obtain ⟨-, he⟩ := List.append_inj' h rfl
        cases he
        exact absurd rfl hc

namespace Terminal

variable {before : Option Char} {x y r t v w rest : Text} {name : String} {as : List Attribute}

/-! ## Finds -/

theorem altHere?_eq_none (h : t.takeWhile (· ≠ '"') ≠ "alt=".toList) : altHere? t = none := by
  cases ha : after? "alt=\"".toList t with
  | none => rw [altHere?, ha]; rfl
  | some r =>
      have hl : "alt=\"".toList ++ r = "alt=".toList ++ '"' :: r := rfl
      rw [after?_eq_some ha, hl, Asset.takeWhile_quote (by decide)] at h
      exact absurd rfl h

theorem afterTagEnd?_append (h : '>' ∉ x) (rest : Text) :
    afterTagEnd? (x ++ '>' :: rest) = some rest := by
  have hp : ∀ c ∈ x, decide (c ≠ '>') = true := by
    intro c hc
    rw [decide_eq_true_eq]
    rintro rfl
    exact h hc
  have hd : (x ++ '>' :: rest).dropWhile (· ≠ '>') = '>' :: rest := by
    rw [List.dropWhile_append_of_pos hp, List.dropWhile_cons_of_neg (by decide)]
  simp only [afterTagEnd?, hd]

theorem altHere?_eq_some (hw : '"' ∉ w) (hx : '>' ∉ x) (rest : Text) :
    altHere? ("alt=\"".toList ++ (w ++ '"' :: (x ++ '>' :: rest))) = some (w, rest) := by
  have hp : ∀ c ∈ w, decide (c ≠ '"') = true := by
    intro c hc
    rw [decide_eq_true_eq]
    rintro rfl
    exact hw hc
  rw [altHere?, after?_append, Option.bind_eq_bind, Option.bind_some, Asset.takeWhile_quote hw,
    List.dropWhile_append_of_pos hp, List.dropWhile_cons_of_neg (by decide)]
  simp only [afterTagEnd?_append hx, Option.map_some]

/-- What is found behind the first characters is found. -/
theorem lastAlt?_of_behind {found : Text × Text} (hx : '>' ∉ x)
    (h : ∀ before, lastAlt? before y = some found) : lastAlt? before (x ++ y) = some found := by
  induction x generalizing before with
  | nil => exact h before
  | cons c x ih =>
      simp only [List.mem_cons, not_or] at hx
      rw [List.cons_append, lastAlt?, if_neg (Ne.symm hx.1), ih hx.2]
      rfl

theorem lastAlt?_append (hx : '>' ∉ x) (hy : ∀ b b', lastAlt? b y = lastAlt? b' y)
    (h : ∀ a s, s ≠ [] → x = a ++ s →
      (a.getLast?.or before).any isWordChar = true ∨ altHere? (s ++ y) = none) :
    lastAlt? before (x ++ y) = lastAlt? none y := by
  induction x generalizing before with
  | nil => exact hy before none
  | cons c x ih =>
      simp only [List.mem_cons, not_or] at hx
      have hrest : lastAlt? (some c) (x ++ y) = lastAlt? none y := by
        refine ih hx.2 fun a s hs he => ?_
        have hc := h (c :: a) s hs (by rw [he]; rfl)
        have hl : (c :: a).getLast?.or before = a.getLast?.or (some c) := by
          rw [List.getLast?_cons]
          cases a.getLast? <;> rfl
        rwa [hl] at hc
      have hhere : (if before.any isWordChar then none else altHere? (c :: (x ++ y))) = none := by
        rcases h [] (c :: x) (List.cons_ne_nil c x) rfl with hw | hn
        · exact if_pos hw
        · exact (congrArg _ hn).trans (ite_self none)
      rw [List.cons_append, lastAlt?, if_neg (Ne.symm hx.1), hrest, hhere]
      cases lastAlt? none y <;> rfl

/-! ## Values that pose as a name -/

/-- Whether the quotation mark behind a value is taken for that of an image's text. -/
def poses (v : Text) : Bool :=
  "alt=".toList.isSuffixOf v && !(v.take (v.length - 4)).getLast?.any isWordChar

theorem poses_iff :
    poses v = true ↔ ∃ u, v = u ++ "alt=".toList ∧ u.getLast?.any isWordChar = false := by
  rw [poses, Bool.and_eq_true, List.isSuffixOf_iff_suffix, Bool.not_eq_true']
  constructor
  · rintro ⟨⟨u, rfl⟩, h⟩
    refine ⟨u, rfl, ?_⟩
    rwa [List.length_append, show "alt=".toList.length = 4 from rfl, Nat.add_sub_cancel,
      List.take_left] at h
  · rintro ⟨u, rfl, h⟩
    refine ⟨List.suffix_append u _, ?_⟩
    rwa [List.length_append, show "alt=".toList.length = 4 from rfl, Nat.add_sub_cancel,
      List.take_left]

/-- The written form of a value poses only if the value does. -/
theorem poses_of_escape (h : poses (escape true v) = true) : poses v = true := by
  obtain ⟨u, hu, hw⟩ := poses_iff.1 h
  have hf := faithful_writeChar true
  have ht : u ++ "alt=".toList = u ++ ['a'] ++ ['l'] ++ ['t'] ++ ['='] := by simp
  rw [ht] at hu
  obtain ⟨v₁, rfl, h₁⟩ := hf.concat (by decide) hu
  obtain ⟨v₂, rfl, h₂⟩ := hf.concat (by decide) h₁.symm
  obtain ⟨v₃, rfl, h₃⟩ := hf.concat (by decide) h₂.symm
  obtain ⟨v₄, rfl, rfl⟩ := hf.concat (by decide) h₃.symm
  refine poses_iff.2 ⟨v₄, by simp, ?_⟩
  cases v₄ using List.reverseRecOn with
  | nil => rfl
  | append_singleton v₄ d _ =>
      rw [List.getLast?_concat]
      rcases hf d with ⟨hd, -⟩ | ⟨n, hn, -⟩
      · rwa [List.flatMap_append, List.flatMap_singleton, hd, List.getLast?_concat] at hw
      · have hall : (Reference.writtenNames.all fun e => e.2.all fun c => !isWordChar c) = true := by
          decide +kernel
        have hd := List.all_eq_true.1 (List.all_eq_true.1 hall _ hn) d (List.mem_singleton_self d)
        simpa using hd

/-! ## Attributes -/

/-- Whether a spelled attribute has no value that poses. -/
structure IsPlain (a : String × Text) : Prop where
  name : a.1 ∈ storyNames
  quote : '"' ∉ a.2
  bracket : '>' ∉ a.2
  value : poses a.2 = false

theorem IsPlain.not_bracket {a : String × Text} (h : IsPlain a) : '>' ∉ spell a.1 a.2 := by
  have hn := Asset.not_bracket_of_name h.name (x := '>') (by decide)
  simp [spell, hn, h.bracket]

/-- In an attribute the text of an image is found at its name alone. -/
theorem spell_split {a s : Text} (h : IsPlain (name, w)) (hs : s ≠ []) (hx : spell name w = a ++ s)
    (before : Option Char) (y : Text) :
    ((a.getLast?.or before).any isWordChar = true ∨ altHere? (s ++ y) = none) ∨
      name = "alt" ∧ a = [' '] := by
  have hq : '"' ∉ name.toList :=
    (by decide : ∀ n ∈ storyNames, '"' ∉ n.toList) name h.name
  rcases Asset.suffix_spell ⟨a, hx.symm⟩ hs with ⟨n, hn, rfl⟩ | rfl | ⟨x, hv, rfl⟩
  · by_cases he : n = "alt".toList
    · subst he
      have hname : name = "alt" :=
        (by decide : ∀ n ∈ storyNames, "alt".toList <:+ ' ' :: n.toList → n = "alt") name h.name hn
      subst hname
      refine .inr ⟨rfl, ?_⟩
      have hl : spell "alt" w = [' '] ++ ("alt".toList ++ '=' :: '"' :: w ++ ['"']) := by simp [spell]
      rw [hl] at hx
      exact (List.append_cancel_right hx).symm
    · have hnq : '"' ∉ n ++ ['='] := by
        intro hm
        rcases List.mem_append.1 hm with hm | hm
        · rcases List.mem_cons.1 (hn.mem hm) with hm | hm
          · cases hm
          · exact hq hm
        · cases List.mem_singleton.1 hm
      refine .inl (.inr (altHere?_eq_none ?_))
      have ht : n ++ '=' :: '"' :: w ++ ['"'] ++ y = n ++ ['='] ++ '"' :: (w ++ '"' :: y) := by simp
      rw [ht, Asset.takeWhile_quote hnq]
      intro hc
      have hname : n ++ ['='] = "alt".toList ++ ['='] := hc
      exact he (List.append_cancel_right hname)
  · exact .inl (.inr (altHere?_eq_none (by simp)))
  · by_cases he : x = "alt=".toList
    · subst he
      obtain ⟨u, rfl⟩ := hv
      have hword : u.getLast?.any isWordChar = true := by
        refine Bool.not_eq_false _ ▸ fun hu => ?_
        cases h.value.symm.trans (poses_iff.2 ⟨u, rfl, hu⟩)
      have hl : spell name (u ++ "alt=".toList) =
          ' ' :: name.toList ++ '=' :: '"' :: u ++ ("alt=".toList ++ ['"']) := by simp [spell]
      rw [hl] at hx
      obtain rfl := List.append_cancel_right hx
      have hlast : (' ' :: name.toList ++ '=' :: '"' :: u).getLast?.or before = u.getLast? := by
        cases hu : u.getLast? with
        | none => rw [hu] at hword; cases hword
        | some c => simp [List.getLast?_append, List.getLast?_cons, hu]
      exact .inl (.inl (hlast ▸ hword))
    · refine .inl (.inr (altHere?_eq_none ?_))
      have hxq : '"' ∉ x := fun hm => h.quote (hv.mem hm)
      rwa [List.append_assoc, List.singleton_append, Asset.takeWhile_quote hxq]

/-- Attributes without the name have no text of an image. -/
theorem lastAlt?_eq_none {as : List (String × Text)} (h : ∀ a ∈ as, IsPlain a ∧ a.1 ≠ "alt")
    (before : Option Char) (rest : Text) : lastAlt? before (spellRest as ++ rest) = none := by
  induction as generalizing before with
  | nil =>
      have ha : altHere? ('>' :: rest) = none := altHere?_eq_none fun he => by
        rw [List.takeWhile_cons_of_pos (by decide)] at he
        cases he
      rw [spellRest, List.singleton_append, lastAlt?, if_pos rfl, ha]
      exact ite_self none
  | cons a as ih =>
      obtain ⟨⟨ha, hne⟩, has⟩ := List.forall_mem_cons.1 h
      have hrest := ih has
      rw [spellRest, List.append_assoc,
        lastAlt?_append ha.not_bracket (fun b b' => (hrest b).trans (hrest b').symm), hrest]
      intro x s hs hx
      exact (spell_split ha hs hx before _).resolve_right fun hn => hne hn.1

/-- The text of an image is the value behind the name, if no value from there on poses. -/
theorem lastAlt?_eq_some {pre post : List (String × Text)}
    (hpre : '>' ∉ pre.flatMap fun a => spell a.1 a.2) (h : IsPlain ("alt", w))
    (hpost : ∀ a ∈ post, IsPlain a ∧ a.1 ≠ "alt") (before : Option Char) (rest : Text) :
    lastAlt? before (spellRest (pre ++ ("alt", w) :: post) ++ rest) = some (w, rest) := by
  have hnone := lastAlt?_eq_none hpost
  rw [spellRest_append, List.append_assoc]
  refine lastAlt?_of_behind hpre fun before => ?_
  -- the letters behind the first one of the name are passed over
  have hrest : lastAlt? (some 'a') ("lt=\"".toList ++ w ++ ['"'] ++ (spellRest post ++ rest)) = none := by
    rw [lastAlt?_append, hnone]
    · simp [h.bracket]
    · exact fun b b' => (hnone b rest).trans (hnone b' rest).symm
    · intro a s hs hx
      have hx : spell "alt" w = ' ' :: 'a' :: a ++ s := by
        rw [List.cons_append, List.cons_append, ← hx]
        simp [spell]
      have hl : (' ' :: 'a' :: a).getLast?.or none = a.getLast?.or (some 'a') := by
        rw [List.getLast?_cons, List.getLast?_cons]
        cases a.getLast? <;> rfl
      rw [← hl]
      refine (spell_split h hs hx none _).resolve_right ?_
      rintro ⟨-, he⟩
      cases he
  have hpost : '>' ∉ post.flatMap fun a => spell a.1 a.2 := by
    intro hm
    obtain ⟨a, ha, hm⟩ := List.mem_flatMap.1 hm
    exact (hpost a ha).1.not_bracket hm
  have hhere := altHere?_eq_some h.quote hpost rest
  have ht : spellRest (("alt", w) :: post) ++ rest =
      ' ' :: 'a' :: ("lt=\"".toList ++ w ++ ['"'] ++ (spellRest post ++ rest)) := by
    simp [spellRest, spell]
  have ha : 'a' :: ("lt=\"".toList ++ w ++ ['"'] ++ (spellRest post ++ rest)) = "alt=\"".toList ++
      (w ++ '"' :: ((post.flatMap fun a => spell a.1 a.2) ++ '>' :: rest)) := by
    simp [spellRest_concat]
  have hword : (some ' ').any isWordChar = false := by decide +kernel
  rw [ht, lastAlt?, if_neg (by decide), lastAlt?, if_neg (by decide), hrest, hword,
    if_neg Bool.false_ne_true, ha, hhere]
  rfl

/-! ## Images -/

/-- The text of an image. -/
def alt? (e : Element) : Option Text :=
  (e.attributes.find? (·.name = "alt")).map (·.value.toList)

/-- The attributes from the text of an image on, or all if it has none. -/
def altOnwards (as : List Attribute) : List Attribute :=
  match as.dropWhile (·.name ≠ "alt") with
  | [] => as
  | behind => behind

variable {e : Element}

/-- A start tag goes on behind its name with no word. -/
theorem afterTagName?_start (h : e.Sanitized storyNames) (rest : Text) :
    afterTagName? ("<" ++ e.name) (writeStart e ++ rest) =
      some (spellRest (spellings e.attributes) ++ rest) := by
  have ht : writeStart e ++ rest =
      ("<" ++ e.name).toList ++ (spellRest (spellings e.attributes) ++ rest) := by
    rw [writeStart_of_sanitized h, openTag, String.toList_append, List.append_assoc]
    rfl
  obtain ⟨c, r, hr, hc⟩ := head_spellRest (spellings e.attributes)
  have hw : isWordChar c = false := by
    rcases hc with rfl | rfl <;> decide +kernel
  rw [afterTagName?, ht, after?_append, hr]
  simp [hw]

theorem isPlain_spelling (h : e.Sanitized storyNames) {a : Attribute} (ha : a ∈ e.attributes)
    (hp : poses a.value.toList = false) : IsPlain (a.name, escape true a.value.toList) where
  name := (h.allowed a ha).2
  quote := avoids_value.not_mem (by decide) _
  bracket := avoids_value.not_mem (by decide) _
  value := Bool.eq_false_iff.2 fun hv => by cases hp.symm.trans (poses_of_escape hv)

theorem altOnwards_cases (as : List Attribute) :
    (∀ a ∈ as, a.name ≠ "alt") ∧ altOnwards as = as ∨ ∃ pre a post, as = pre ++ a :: post ∧
      a.name = "alt" ∧ (∀ b ∈ pre, b.name ≠ "alt") ∧ altOnwards as = a :: post := by
  have hpre : ∀ b ∈ as.takeWhile (·.name ≠ "alt"), b.name ≠ "alt" := fun b hb => by
    simpa using List.all_eq_true.1 List.all_takeWhile b hb
  have hsplit : as = as.takeWhile (·.name ≠ "alt") ++ as.dropWhile (·.name ≠ "alt") :=
    List.takeWhile_append_dropWhile.symm
  have hhead := List.head?_dropWhile_not (fun a : Attribute => a.name ≠ "alt") as
  rw [altOnwards]
  generalize as.dropWhile (fun a : Attribute => a.name ≠ "alt") = behind at hsplit hhead ⊢
  cases behind with
  | nil =>
      rw [List.append_nil] at hsplit
      exact .inl ⟨hsplit ▸ hpre, rfl⟩
  | cons a post => exact .inr ⟨_, a, post, hsplit, by simpa using hhead, hpre, rfl⟩

theorem alt?_eq_none (h : ∀ a ∈ e.attributes, a.name ≠ "alt") : alt? e = none := by
  rw [alt?, List.find?_eq_none.2 fun a ha => by simpa using h a ha]
  rfl

theorem alt?_eq_some {pre post : List Attribute} {a : Attribute} (h : e.attributes = pre ++ a :: post)
    (hpre : ∀ b ∈ pre, b.name ≠ "alt") (ha : a.name = "alt") : alt? e = some a.value.toList := by
  have hp : pre.find? (·.name = "alt") = none :=
    List.find?_eq_none.2 fun b hb => by simpa using hpre b hb
  simp [alt?, h, List.find?_append, hp, ha]

/-- In a tag the text of the image is found if no value from there on poses. -/
theorem lastAlt?_spellings (h : e.Sanitized storyNames)
    (hp : ∀ a ∈ altOnwards e.attributes, poses a.value.toList = false) (before : Option Char)
    (rest : Text) : lastAlt? before (spellRest (spellings e.attributes) ++ rest) =
      (alt? e).map fun alt => (escape true alt, rest) := by
  have hs : Spelled e.attributes := spelled_of_sanitized h
  rcases altOnwards_cases e.attributes with ⟨hne, hon⟩ | ⟨pre, a, post, has, ha, hpre, hon⟩
  · have hplain : ∀ s ∈ spellings e.attributes, IsPlain s ∧ s.1 ≠ "alt" := by
      intro s hs
      obtain ⟨a, ha, rfl⟩ := List.mem_map.1 hs
      exact ⟨isPlain_spelling h ha (hp a (hon.symm ▸ ha)), hne a ha⟩
    rw [lastAlt?_eq_none hplain, alt?_eq_none hne]
    rfl
  · have hplain : ∀ b ∈ a :: post, IsPlain (b.name, escape true b.value.toList) := fun b hb =>
      isPlain_spelling h (has ▸ List.mem_append_right pre hb) (hp b (hon.symm ▸ hb))
    have hdistinct : ∀ b ∈ post, b.name ≠ "alt" := by
      have hnd : ((pre ++ a :: post).map (·.name)).Nodup := has ▸ h.distinct
      rw [List.map_append, List.map_cons] at hnd
      have hnot := (List.nodup_cons.1 (List.nodup_append.1 hnd).2.1).1
      exact fun b hb he => hnot (List.mem_map.2 ⟨b, hb, he.trans ha.symm⟩)
    have hsp : spellings e.attributes =
        spellings pre ++ ("alt", escape true a.value.toList) :: spellings post := by
      rw [has, spellings, List.map_append, List.map_cons, ha]
      rfl
    have hbracket : '>' ∉ (spellings pre).flatMap fun s => spell s.1 s.2 := by
      have hb := Asset.not_bracket_spell hs (x := '>') (by decide)
      rw [hsp, List.flatMap_append, List.mem_append, not_or] at hb
      exact hb.1
    have hpost : ∀ s ∈ spellings post, IsPlain s ∧ s.1 ≠ "alt" := by
      intro s hs
      obtain ⟨b, hb, rfl⟩ := List.mem_map.1 hs
      exact ⟨hplain b (List.mem_cons_of_mem a hb), hdistinct b hb⟩
    rw [hsp, lastAlt?_eq_some hbracket (ha ▸ hplain a List.mem_cons_self) hpost,
      alt?_eq_some has hpre ha]
    rfl

theorem image?_start (h : e.Sanitized storyNames) (hn : e.name = "img")
    (hp : ∀ a ∈ altOnwards e.attributes, poses a.value.toList = false) (rest : Text) :
    image? (writeStart e ++ rest) =
      (alt? e).map fun alt => (escape true ("[image: ".toList ++ (alt ++ [']'])), rest) := by
  have hname := afterTagName?_start h rest
  rw [hn] at hname
  rw [image?, show "<img" = "<" ++ "img" from rfl, hname, Option.bind_eq_bind, Option.bind_some,
    lastAlt?_spellings h hp]
  cases alt? e with
  | none => rfl
  | some alt =>
      have hmark : escape true ("[image: ".toList ++ (alt ++ [']'])) =
          "[image: ".toList ++ escape true alt ++ [']'] := by
        rw [escape_append, escape_append, ← List.append_assoc]
        rfl
      rw [Option.map_some, Option.map_some, hmark]
      rfl

end Terminal
end Gamebook
