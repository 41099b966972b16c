import Gamebook.Proofs.Directive.Pattern

/-!
# Assignments in reading order

The assignments of a text are found by a pass for each kind and are then put in the order in which they
stand. A single scan finds the same that holds what stands behind the last opening brace of the line and
at a closing brace reads it, as no token is of two kinds. It needs to know no more of a text that it has
scanned, so the assignments of two texts in turn are those of the texts put together, unless a token
begins in the one and ends in the other.
-/

namespace Gamebook

open Text Piece

namespace Text

variable {s t : Text}

/-- Whether a token begins in the first text and ends in the second. -/
def Spanned (s t : Text) : Prop :=
  ∃ a b b' c, s = a ++ '\x7b' :: b ∧ t = b' ++ '\x7d' :: c ∧ (b ++ b').filter isMark = []

theorem spanned_iff : Spanned s t ↔ Opens s ∧ Closes t := by
  constructor
  · rintro ⟨a, b, b', c, rfl, rfl, h⟩
    rw [List.filter_append, List.append_eq_nil_iff] at h
    refine ⟨opens_append.2 (.inl ?_), closes_append.2 (.inr ⟨h.2, rfl⟩)⟩
    exact (opens_append (s := ['\x7b'])).2 (.inr ⟨h.1, rfl⟩)
  · rintro ⟨ho, hc⟩
    obtain ⟨a, b, rfl, hb⟩ := ho.exists_eq
    obtain ⟨b', c, rfl, hb'⟩ := hc.exists_eq
    exact ⟨a, b, b', c, rfl, rfl, by rw [List.filter_append, hb, hb', List.append_nil]⟩

instance (s t : Text) : Decidable (Spanned s t) := decidable_of_iff' _ spanned_iff

end Text

namespace Piece

variable {s t : Text}

theorem closed?_append_of_not_closes (h : s.filter isMark = [] → ¬ Closes t) :
    closed? (s ++ t) = closed? s := by
  induction s with
  | nil => exact closed?_eq_none (h rfl)
  | cons c s ih =>
      rw [List.cons_append, closed?, closed?]
      by_cases hc : isMark c = true
      · simp [hc]
      · rw [ih fun hs => h (by rw [List.filter_cons_of_neg hc, hs])]

/-- The tokens of two texts that no token spans are those of the texts put together. -/
theorem insides_append_of_not_spanned (h : ¬ Spanned s t) :
    insides (ofText (s ++ t)) = insides (ofText s) ++ insides (ofText t) := by
  rw [spanned_iff] at h
  induction s with
  | nil => rfl
  | cons c s ih =>
      have hs := ih fun hs => h ⟨hs.1.cons c, hs.2⟩
      rw [List.cons_append]
      by_cases hc : c = '\x7b'
      · subst hc
        have hclosed : closed? (s ++ t) = closed? s :=
          closed?_append_of_not_closes fun hn hcl =>
            h ⟨(opens_append (s := ['\x7b'])).2 (.inr ⟨hn, rfl⟩), hcl⟩
        rw [insides_brace, insides_brace, hclosed, hs, List.append_assoc]
      · rw [insides_cons hc, insides_cons hc, hs]

/-! ## A single scan -/

/-- What is read at the closing braces of a text that is scanned once, from left to right: `opened` is
what stands between the last opening brace and the text, if that is on the same line and not closed. -/
def readThrough {α : Type} (read : Text → Option α) : Option Text → Text → List α
  | _, [] => []
  | opened, c :: t =>
    if c = '\x7b' then readThrough read (some []) t
    else if c = '\x7d' then (opened.bind read).toList ++ readThrough read none t
    else if c = '\n' then readThrough read none t
    else readThrough read (opened.map (· ++ [c])) t

/-- The scan reads first what the text ends the opened token with, then the tokens of the text. -/
theorem readThrough_eq {α : Type} (read : Text → Option α) (opened : Option Text) (t : Text) :
    readThrough read opened t =
      ((opened.bind fun i => (closed? t).map (i ++ ·)).bind read).toList ++
        (insides (ofText t)).filterMap read := by
  induction t generalizing opened with
  | nil => cases opened <;> rfl
  | cons c t ih =>
      rw [readThrough, closed?]
      by_cases h₁ : c = '\x7b'
      · subst h₁
        have hnone : (opened.bind fun _ => (none : Option Text)) = none := by cases opened <;> rfl
        rw [if_pos rfl, ih, insides_brace, List.filterMap_append]
        cases closed? t with
        | none => simp [isMark, hnone]
        | some i => cases hr : read i <;> simp [isMark, hnone, hr]
      · rw [insides_cons h₁, if_neg h₁]
        by_cases h₂ : c = '\x7d'
        · subst h₂
          rw [if_pos rfl, if_pos rfl, ih]
          cases opened <;> simp
        · rw [if_neg h₂, if_neg h₂]
          by_cases h₃ : c = '\n'
          · subst h₃
            rw [if_pos rfl, ih]
            cases opened <;> simp [isMark]
          · rw [if_neg h₃, ih]
            cases opened <;> cases closed? t <;> simp [isMark, h₁, h₂, h₃]

end Piece

namespace Directive

open Find

variable {i s t : Text} {a : Assignment} {ops : List Assignment}

/-! ## Kinds of tokens -/

/-- What a token is on its own: a `set`, an `add`, a `sub` or none of them. -/
def assignment? (i : Text) : Option Assignment := set? i <|> add? i <|> sub? i

/-- The readers of assignments with their keywords. -/
def assignmentsByKind : List (String × (Text → Option Assignment)) :=
  [("set", set?), ("add", add?), ("sub", sub?)]

/-- The keyword stands in front of what a reader accepts. -/
theorem isWord_of_reads {x : String × (Text → Option Assignment)} (hx : x ∈ assignmentsByKind)
    (h : (x.2 i).isSome = true) : x.1 ∈ keywords ∧ isWord x.1.toList (splitColon i).1 = true := by
  have hword {k : String} {r : Text} (hk : k ∈ keywords)
      (hr : afterWord? (k ++ ":").toList i = some r) :
      k ∈ keywords ∧ isWord k.toList (splitColon i).1 = true := by
    obtain ⟨word, hs, hw⟩ := splitColon_of_afterWord? hk hr
    exact ⟨hk, by rw [hs]; exact hw⟩
  simp only [assignmentsByKind, List.mem_cons, List.not_mem_nil, or_false] at hx
  rcases hx with rfl | rfl | rfl
  · obtain ⟨r, hr, -⟩ := exists_of_isSome_bind h
    exact hword (by decide) hr
  · have h : (change? "add:" i).isSome = true := by rwa [← Option.isSome_map]
    obtain ⟨r, hr, -⟩ := exists_of_isSome_bind h
    exact hword (k := "add") (by decide) hr
  · have h : (change? "sub:" i).isSome = true := by rwa [← Option.isSome_map]
    obtain ⟨r, hr, -⟩ := exists_of_isSome_bind h
    exact hword (k := "sub") (by decide) hr

theorem eq_of_reads {x y : String × (Text → Option Assignment)} (hx : x ∈ assignmentsByKind)
    (hy : y ∈ assignmentsByKind) (h : (x.2 i).isSome = true) (h' : (y.2 i).isSome = true) :
    x.1 = y.1 :=
  eq_of_isWord (isWord_of_reads hx h).1 (isWord_of_reads hy h').1 (isWord_of_reads hx h).2
    (isWord_of_reads hy h').2

theorem filterMap_assignmentReaders (i : Text) :
    (assignmentReaders.filterMap fun read => read i) = (assignment? i).toList := by
  have hnone {x y : String × (Text → Option Assignment)} (hx : x ∈ assignmentsByKind)
      (hy : y ∈ assignmentsByKind) (hxy : x.1 ≠ y.1) (h : (x.2 i).isSome = true) : y.2 i = none :=
    Option.not_isSome_iff_eq_none.1 fun h' => hxy (eq_of_reads hx hy h h')
  have hset : ("set", set?) ∈ assignmentsByKind := .head _
  have hadd : ("add", add?) ∈ assignmentsByKind := .tail _ (.head _)
  have hsub : ("sub", sub?) ∈ assignmentsByKind := .tail _ (.tail _ (.head _))
  rw [assignmentReaders, assignment?]
  cases hs : set? i with
  | some a =>
      have hs' : (set? i).isSome = true := by rw [hs]; rfl
      have ha : add? i = none := hnone hset hadd (by decide) hs'
      have hb : sub? i = none := hnone hset hsub (by decide) hs'
      simp [hs, ha, hb]
  | none =>
      cases ha : add? i with
      | some a =>
          have ha' : (add? i).isSome = true := by rw [ha]; rfl
          have hb : sub? i = none := hnone hadd hsub (by decide) ha'
          simp [hs, ha, hb]
      | none => cases hb : sub? i <;> simp [hs, ha, hb]

/-- The assignments of a text are those that a single scan reads, token by token. -/
theorem assignments_eq_readThrough (t : Text) :
    assignments t = readThrough assignment? none t := by
  rw [assignments, gather_eq, readThrough_eq, ← map_snd_tokens, List.filterMap_map]
  simp only [filterMap_assignmentReaders]
  rw [List.filterMap_eq_flatMap_toList]
  rfl

/-! ## Passes -/

/-- Whether these are the changes that a pass for each kind finds, put in the order of the text. -/
def IsMerged (t : Text) (ops : List Assignment) : Prop :=
  ∃ sets adds subs, Pass SetPattern 0 t sets ∧ Pass (ChangePattern "add:" .add) 0 t adds ∧
    Pass (ChangePattern "sub:" .sub) 0 t subs ∧
      ops = (inOrder (sets ++ adds ++ subs)).map (·.2)

theorem pass_add_iff {finds : List (Find Assignment)} :
    Pass (ChangePattern "add:" .add) 0 t finds ↔ finds = inText add? t :=
  pass_iff (isTokenwise_change (by decide) (by simp [isMark]))

theorem pass_sub_iff {finds : List (Find Assignment)} :
    Pass (ChangePattern "sub:" .sub) 0 t finds ↔ finds = inText sub? t :=
  pass_iff (isTokenwise_change (by decide) (by simp [isMark]))

theorem isMerged_iff : IsMerged t ops ↔ ops = assignments t := by
  have hpasses : passes assignmentReaders t = inText set? t ++ inText add? t ++ inText sub? t := by
    simp [passes, assignmentReaders]
  rw [assignments, gather, hpasses]
  constructor
  · rintro ⟨sets, adds, subs, hs, ha, hb, rfl⟩
    rw [(pass_iff isTokenwise_set).1 hs, pass_add_iff.1 ha, pass_sub_iff.1 hb]
  · rintro rfl
    exact ⟨_, _, _, (pass_iff isTokenwise_set).2 rfl, pass_add_iff.2 rfl, pass_sub_iff.2 rfl, rfl⟩

/-! ## Texts put together -/

theorem assignments_append (h : ¬ Spanned s t) :
    assignments (s ++ t) = assignments s ++ assignments t := by
  simp only [assignments_eq_readThrough, readThrough_eq]
  rw [insides_append_of_not_spanned h, List.filterMap_append]
  simp

/-- The passes for the three kinds find, in the order of the text, what a single scan reads, token by
token; and the changes of two texts in turn are those of the texts put together, if no token spans
them. -/
theorem assignments_run_in_reading_order :
    (∀ t ops, IsMerged t ops ↔ ops = readThrough assignment? none t) ∧
      (∀ t, assignments t = readThrough assignment? none t) ∧
      ∀ s t vars, ¬ Spanned s t → Assignment.applyAll (Assignment.applyAll vars (assignments s))
        (assignments t) = Assignment.applyAll vars (assignments (s ++ t)) := by
  refine ⟨fun t ops => ?_, assignments_eq_readThrough, fun s t vars h => ?_⟩
  · rw [isMerged_iff, assignments_eq_readThrough]
  · rw [assignments_append h, Assignment.applyAll, Assignment.applyAll, Assignment.applyAll,
      List.foldl_append]

/-- The first text ends with a brace that the second does not close. -/
theorem assignments_run_in_reading_order_open_brace :
    ¬ Spanned "\x7bset:gold=1\x7d\x7b".toList "\x7badd:gold=2\x7d".toList ∧
      (assignments "\x7bset:gold=1\x7d\x7b".toList).length = 1 ∧
      (assignments "\x7badd:gold=2\x7d".toList).length = 1 ∧
      Assignment.applyAll (Assignment.applyAll ∅ (assignments "\x7bset:gold=1\x7d\x7b".toList))
        (assignments "\x7badd:gold=2\x7d".toList) =
        Assignment.applyAll ∅ (assignments "\x7bset:gold=1\x7d\x7b\x7badd:gold=2\x7d".toList) := by
  have h : ¬ Spanned "\x7bset:gold=1\x7d\x7b".toList "\x7badd:gold=2\x7d".toList := by decide
  refine ⟨h, by decide +kernel, by decide +kernel, ?_⟩
  exact assignments_run_in_reading_order.2.2 _ _ _ h

end Directive
end Gamebook
