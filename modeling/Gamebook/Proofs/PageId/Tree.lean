import Gamebook.Graph.Edit

/-!
# The tree of page ids

A word of letters leads from a page down to another one. Below the greatest page number the pages make
a tree: a page is the parent of its children, each page is the child of one page, and the pages within
a page are those that words lead to. Steps from the greatest page number stay at it, so two pages can
share a child there, but never two words from one page.
-/

namespace Gamebook.PageId

variable {p q : PageId} {l m : Letter} {v w : List Letter}

@[simp] theorem path_child (p : PageId) (l : Letter) : (p.child l).path = p.path ++ [l] := rfl

theorem number_child (p : PageId) (l : Letter) :
    (p.child l).number = min (p.number + 1) maxPageNumber := rfl

theorem child_ne (p : PageId) (l : Letter) : p.child l ≠ p := by
  intro h
  have hp : p.path ++ [l] = p.path := congrArg path h
  simp at hp

theorem continuation_eq_self_iff : p.continuation = p ↔ p.number = maxPageNumber := by
  have hm := p.le_max
  have hn : p.continuation.number = min (p.number + 1) maxPageNumber := rfl
  constructor
  · intro h
    have := hn.symm.trans (congrArg number h)
    omega
  · exact fun h => eq_of_number_path (by omega) rfl

theorem parent?_child_eq_some_iff : (p.child l).parent? = some p ↔ p.number < maxPageNumber := by
  have hm := p.le_max
  have h1 := p.one_le
  have hc := number_child p l
  have hmax : 1 < maxPageNumber := by decide
  have hn : ¬ (p.child l).number ≤ 1 := by omega
  rw [parent?, dif_neg hn, Option.some.injEq]
  constructor
  · intro h
    have : (p.child l).number - 1 = p.number := congrArg number h
    omega
  · intro h
    refine eq_of_number_path ?_ (by simp)
    change (p.child l).number - 1 = p.number
    omega

/-- Two pages share a child only if they have one path, and if they are one page unless both numbers
are among the two greatest. -/
theorem child_eq_child_iff : p.child l = q.child m ↔ l = m ∧ p.path = q.path ∧
    (p.number = q.number ∨ maxPageNumber ≤ p.number + 1 ∧ maxPageNumber ≤ q.number + 1) := by
  have hp := p.le_max
  have hq := q.le_max
  have hcp := number_child p l
  have hcq := number_child q m
  constructor
  · intro h
    have hn : (p.child l).number = (q.child m).number := congrArg number h
    have hpath : p.path ++ [l] = q.path ++ [m] := congrArg path h
    obtain ⟨hpq, hlm⟩ := List.append_inj' hpath rfl
    exact ⟨List.singleton_inj.1 hlm, hpq, by omega⟩
  · rintro ⟨rfl, hpath, hn⟩
    exact eq_of_number_path (by omega) (by simp [hpath])

/-! ## Words -/

/-- Where a word of letters leads by default. -/
def below (p : PageId) (word : List Letter) : PageId := word.foldl child p

@[simp] theorem below_nil (p : PageId) : p.below [] = p := rfl

@[simp] theorem below_cons (p : PageId) (l : Letter) (w : List Letter) :
    p.below (l :: w) = (p.child l).below w := rfl

theorem below_append (p : PageId) (v w : List Letter) : p.below (v ++ w) = (p.below v).below w :=
  List.foldl_append

theorem below_concat (p : PageId) (w : List Letter) (l : Letter) :
    p.below (w ++ [l]) = (p.below w).child l :=
  below_append p w [l]

@[simp] theorem path_below (p : PageId) (w : List Letter) : (p.below w).path = p.path ++ w := by
  induction w generalizing p with
  | nil => simp
  | cons l w ih => simp [ih]

theorem number_below (p : PageId) (w : List Letter) :
    (p.below w).number = min (p.number + w.length) maxPageNumber := by
  induction w generalizing p with
  | nil => exact (Nat.min_eq_left p.le_max).symm
  | cons l w ih =>
      rw [below_cons, ih, number_child, List.length_cons]
      omega

theorem number_below_of_le (h : p.number + w.length ≤ maxPageNumber) :
    (p.below w).number = p.number + w.length := by
  rw [number_below, Nat.min_eq_left h]

theorem below_injective (h : p.below v = p.below w) : v = w := by
  have hp : p.path ++ v = p.path ++ w := by rw [← path_below, ← path_below, h]
  exact List.append_cancel_left hp

theorem below_ne (h : w ≠ []) : p.below w ≠ p := fun he => h (below_injective (p := p) he)

theorem eq_below (hn : q.number = p.number + w.length) (hp : q.path = p.path ++ w) :
    q = p.below w := by
  have hm := q.le_max
  exact eq_of_number_path (by rw [hn, number_below_of_le (by omega)]) (by rw [hp, path_below])

theorem isWithin_iff : q.isWithin p = true ↔
    ∃ w, q.path = p.path ++ w ∧ q.number = p.number + w.length := by
  simp only [isWithin, Bool.and_eq_true, List.isPrefixOf_iff_prefix, beq_iff_eq]
  constructor
  · rintro ⟨⟨w, hw⟩, hn⟩
    refine ⟨w, hw.symm, ?_⟩
    rw [← hw, List.length_append] at hn
    omega
  · rintro ⟨w, hp, hn⟩
    refine ⟨⟨w, hp.symm⟩, ?_⟩
    rw [hp, List.length_append]
    omega

/-- A page is the parent of its children exactly below the greatest page number. There each page is
the child of one page by one letter, only the greatest page number goes on to itself, and the pages
within a page are those that words lead to from it without a step from the greatest page number. -/
theorem children_form_tree :
    (∀ p l, (child p l).parent? = some p ↔ p.number < maxPageNumber) ∧
    (∀ p q l m, child p l = q.child m → l = m ∧ p.path = q.path ∧
      (p = q ∨ p.number ≠ q.number ∧ maxPageNumber ≤ p.number + 1 ∧
        maxPageNumber ≤ q.number + 1)) ∧
    (∀ p l, child p l ≠ p) ∧
    (∀ p, continuation p = p ↔ p.number = maxPageNumber) ∧
    (∀ p q, isWithin q p = true → ∃ w, q = p.below w) ∧
    ∀ p w, number p + w.length ≤ maxPageNumber → (p.below w).isWithin p = true := by
  refine ⟨fun _ _ => parent?_child_eq_some_iff, fun p q l m h => ?_, child_ne,
    fun _ => continuation_eq_self_iff, fun p q h => ?_, fun p w h => ?_⟩
  · obtain ⟨hl, hp, hn⟩ := child_eq_child_iff.1 h
    refine ⟨hl, hp, ?_⟩
    by_cases he : p.number = q.number
    · exact .inl (eq_of_number_path he hp)
    · exact .inr ⟨he, hn.resolve_left he⟩
  · obtain ⟨w, hp, hn⟩ := isWithin_iff.1 h
    exact ⟨w, eq_below hn hp⟩
  · exact isWithin_iff.2 ⟨w, path_below p w, number_below_of_le h⟩

/-- The last page number is not the parent of its child, shares it with the number before, goes on to
itself, and its child is not within it. -/
theorem not_tree_at_last_number :
    let last : PageId := { number := 18446744073709551615, path := [] }
    let before : PageId := { number := 18446744073709551614, path := [] }
    (last.child .a).parent? ≠ some last ∧ last.child .a = before.child .a ∧ last ≠ before ∧
      last.continuation = last ∧ (last.child .a).isWithin last = false := by
  decide

end Gamebook.PageId
