import Gamebook.Proofs.PageId.Tree
import Mathlib.Data.List.Shortlex

/-!
# What a walk through the children finds

A walk keeps a queue of pages and finds the children of the page in front among the pages that are
left. It finds no page twice, and exactly those to which a word leads from the queue through pages
that are left. A queue in order stays in order, so the pages are found in order of their paths: shorter
ones first, and alphabetically among those of one length.
-/

namespace Gamebook

/-- Letters in alphabetical order. -/
instance : LT Letter := ⟨fun l m => l.index < m.index⟩

instance : Std.Asymm (α := Letter) (· < ·) := ⟨fun _ _ => Nat.lt_asymm⟩

theorem Letter.all_pairwise : all.Pairwise (· < ·) :=
  (by decide : all.Pairwise fun l m => l.index < m.index)

namespace PageId

variable {p q r t u : PageId} {l m : Letter} {v w : List Letter} {existing left queue : List PageId}

theorem mem_children : q ∈ Letter.all.map p.child ↔ ∃ l, p.child l = q := by
  rw [List.mem_map]
  constructor
  · rintro ⟨l, -, h⟩
    exact ⟨l, h⟩
  · rintro ⟨l, h⟩
    exact ⟨l, by cases l <;> decide, h⟩

theorem mem_childrenIn_iff : q ∈ p.childrenIn left ↔ q ∈ left ∧ ∃ l, p.child l = q := by
  rw [mem_childrenIn, mem_children, and_comm]

theorem mem_childrenIn_or_othersIn (h : q ∈ left) : q ∈ p.childrenIn left ∨ q ∈ p.othersIn left := by
  by_cases hc : q ∈ Letter.all.map p.child
  · exact .inl (mem_childrenIn.2 ⟨hc, h⟩)
  · exact .inr (mem_othersIn.2 ⟨h, hc⟩)

/-! ## The pages that words lead to -/

/-- Whether a word leads from a page down through certain pages. -/
def Hangs (existing : List PageId) (p : PageId) (w : List Letter) : Prop :=
  ∀ v, v ≠ [] → v <+: w → p.below v ∈ existing

theorem hangs_nil : Hangs existing p [] := fun _ hv h => absurd (List.prefix_nil.1 h) hv

theorem hangs_cons_iff :
    Hangs existing p (l :: w) ↔ p.child l ∈ existing ∧ Hangs existing (p.child l) w := by
  constructor
  · intro h
    refine ⟨h [l] (by simp) (by simp), fun v _ hv => ?_⟩
    exact h (l :: v) (by simp) (List.cons_prefix_cons.2 ⟨rfl, hv⟩)
  · rintro ⟨hl, hw⟩ v hv hvw
    obtain ⟨u, rfl, hu⟩ := (List.prefix_cons_iff.1 hvw).resolve_left hv
    cases u with
    | nil => exact hl
    | cons m u => exact hw (m :: u) (by simp) hu

theorem Hangs.mono (h : Hangs left p w) (hs : ∀ q ∈ left, q ∈ existing) : Hangs existing p w :=
  fun v hv hvw => hs _ (h v hv hvw)

theorem Hangs.of_prefix (h : Hangs existing p w) (hv : v <+: w) : Hangs existing p v :=
  fun u hu huv => h u hu (huv.trans hv)

/-! ## The walk -/

theorem walk_nil : walk [] left = [] := by rw [walk]

theorem walk_cons : walk (p :: queue) left =
    p.childrenIn left ++ walk (queue ++ p.childrenIn left) (p.othersIn left) := by rw [walk]

/-- What is found is led to from the queue through pages that were left. -/
theorem hangs_of_mem_walk (h : q ∈ walk queue left) :
    ∃ t ∈ queue, ∃ l w, Hangs left t (l :: w) ∧ q = t.below (l :: w) := by
  induction queue, left using walk.induct with
  | case1 left => rw [walk_nil] at h; cases h
  | case2 left p queue ih =>
      rw [walk_cons, List.mem_append] at h
      have hchild : ∀ u ∈ p.childrenIn left, ∃ l, u ∈ left ∧ u = p.child l := by
        intro u hu
        obtain ⟨hu, l, rfl⟩ := mem_childrenIn_iff.1 hu
        exact ⟨l, hu, rfl⟩
      rcases h with h | h
      · obtain ⟨l, hl, rfl⟩ := hchild q h
        exact ⟨p, List.mem_cons_self .., l, [], hangs_cons_iff.2 ⟨hl, hangs_nil⟩, rfl⟩
      · obtain ⟨t, ht, l, w, hw, rfl⟩ := ih h
        have hw : Hangs left t (l :: w) := hw.mono fun _ h => (mem_othersIn.1 h).1
        rcases List.mem_append.1 ht with ht | ht
        · exact ⟨t, List.mem_cons_of_mem _ ht, l, w, hw, rfl⟩
        · obtain ⟨m, hm, rfl⟩ := hchild t ht
          exact ⟨p, List.mem_cons_self .., m, l :: w, hangs_cons_iff.2 ⟨hm, hw⟩, rfl⟩

/-- What is found is closed under children that were left, and so is the queue. -/
theorem child_mem_walk (hl : t.child l ∈ left) (ht : t ∈ queue ∨ t ∈ walk queue left) :
    t.child l ∈ walk queue left := by
  induction queue, left using walk.induct with
  | case1 left =>
      rw [walk_nil] at ht
      rcases ht with ht | ht <;> cases ht
  | case2 left p queue ih =>
      rw [walk_cons, List.mem_append] at ht ⊢
      rw [List.mem_cons] at ht
      rcases mem_childrenIn_or_othersIn (p := p) hl with hc | ho
      · exact .inl hc
      · refine .inr (ih ho ?_)
        rw [List.mem_append]
        rcases ht with (rfl | ht) | ht | ht
        · exact absurd (mem_children.2 ⟨l, rfl⟩) (mem_othersIn.1 ho).2
        · exact .inl (.inl ht)
        · exact .inl (.inr ht)
        · exact .inr ht

theorem below_mem_walk (h : Hangs left t (l :: w)) (ht : t ∈ queue ∨ t ∈ walk queue left) :
    t.below (l :: w) ∈ walk queue left := by
  induction w generalizing t l with
  | nil => exact child_mem_walk (hangs_cons_iff.1 h).1 ht
  | cons m w ih =>
      obtain ⟨hl, hw⟩ := hangs_cons_iff.1 h
      exact ih hw (.inr (child_mem_walk hl ht))

/-! ## The order of the walk -/

/-- Whether the path of a page is shorter than that of another, or of the same length and before it in
the alphabet. -/
def Before (p q : PageId) : Prop := List.Shortlex (· < ·) p.path q.path

theorem Before.ne (h : Before p q) : p ≠ q := by
  rintro rfl
  have h : List.Shortlex (· < ·) p.path p.path := h
  exact Std.Asymm.asymm _ _ h h

theorem lex_append {s t : List Letter} (h : List.Lex (· < ·) s t) (hl : s.length = t.length)
    (x y : List Letter) : List.Lex (· < ·) (s ++ x) (t ++ y) := by
  induction h with
  | nil => cases hl
  | cons _ ih => exact .cons (ih (Nat.succ.inj hl))
  | rel hab => exact .rel hab

theorem Before.child (h : Before p q) (l m : Letter) : Before (p.child l) (q.child m) := by
  rcases List.shortlex_def.1 h with h | ⟨hl, h⟩
  · exact .of_length_lt (by simpa using h)
  · exact .of_lex (by simpa using hl) (lex_append h hl [l] [m])

theorem Before.below (h : Before p q) (w : List Letter) : Before p (q.below w) := by
  rw [Before, path_below]
  exact h.append_right w

theorem before_below (h : w ≠ []) : Before p (p.below w) :=
  .of_length_lt (by simpa using List.length_pos_iff.2 h)

theorem child_before_below (h : w ≠ []) (l m : Letter) : Before (p.child l) ((p.child m).below w) :=
  .of_length_lt (by simpa using List.length_pos_iff.2 h)

theorem childrenIn_pairwise : (p.childrenIn left).Pairwise Before := by
  refine List.Pairwise.filter _ (List.pairwise_map.2 (Letter.all_pairwise.imp fun h => ?_))
  exact List.Shortlex.append_left ((List.shortlex_singleton_iff _ _).2 h) p.path

/-- Whether a queue is in order, and no page in it comes behind a child of another one. -/
structure Ordered (queue : List PageId) : Prop where
  pairwise : queue.Pairwise Before
  children : ∀ u ∈ queue, ∀ t ∈ queue, ∀ l, u.Before (t.child l)

theorem Ordered.single : Ordered [p] where
  pairwise := List.pairwise_singleton ..
  children u hu t ht l := by
    rw [List.mem_singleton.1 hu, List.mem_singleton.1 ht]
    exact before_below (w := [l]) (by simp)

/-- A queue stays in order when the page in front leaves it and children of that page join it. -/
theorem Ordered.step (h : Ordered (p :: queue)) : Ordered (queue ++ p.childrenIn left) where
  pairwise := by
    refine List.pairwise_append.2 ⟨(List.pairwise_cons.1 h.pairwise).2, childrenIn_pairwise, ?_⟩
    intro u hu c hc
    obtain ⟨-, l, rfl⟩ := mem_childrenIn_iff.1 hc
    exact h.children u (List.mem_cons_of_mem _ hu) p (List.mem_cons_self ..) l
  children := by
    intro u hu t ht m
    have hp (l : Letter) : ∀ u ∈ queue, u.Before (p.child l) := fun u hu =>
      h.children u (List.mem_cons_of_mem _ hu) p (List.mem_cons_self ..) l
    rcases List.mem_append.1 hu with hu | hu <;> rcases List.mem_append.1 ht with ht | ht
    · exact h.children u (List.mem_cons_of_mem _ hu) t (List.mem_cons_of_mem _ ht) m
    · obtain ⟨-, l, rfl⟩ := mem_childrenIn_iff.1 ht
      exact (hp l u hu).below [m]
    · obtain ⟨-, l, rfl⟩ := mem_childrenIn_iff.1 hu
      exact ((List.pairwise_cons.1 h.pairwise).1 t ht).child l m
    · obtain ⟨-, l, rfl⟩ := mem_childrenIn_iff.1 hu
      obtain ⟨-, k, rfl⟩ := mem_childrenIn_iff.1 ht
      exact child_before_below (w := [m]) (by simp) l k

/-- From a queue in order the pages are found in order. -/
theorem Ordered.walk_pairwise (h : Ordered queue) : (walk queue left).Pairwise Before := by
  induction queue, left using walk.induct with
  | case1 left => rw [walk_nil]; exact .nil
  | case2 left p queue ih =>
      rw [walk_cons]
      refine List.pairwise_append.2 ⟨childrenIn_pairwise, ih h.step, fun c hc q hq => ?_⟩
      obtain ⟨-, l, rfl⟩ := mem_childrenIn_iff.1 hc
      obtain ⟨t, ht, m, w, -, rfl⟩ := hangs_of_mem_walk hq
      rcases List.mem_append.1 ht with ht | ht
      · exact (((List.pairwise_cons.1 h.pairwise).1 t ht).child l m).below w
      · obtain ⟨-, k, rfl⟩ := mem_childrenIn_iff.1 ht
        exact child_before_below (List.cons_ne_nil m w) l k

/-! ## Descendants -/

/-- The descendants of a page are those that words lead to through the existing pages. -/
theorem mem_descendants_iff : q ∈ p.descendants existing ↔
    ∃ w, w ≠ [] ∧ Hangs existing p w ∧ q = p.below w := by
  rw [descendants]
  constructor
  · intro h
    obtain ⟨t, ht, l, w, hw, rfl⟩ := hangs_of_mem_walk h
    rw [List.mem_singleton.1 ht] at hw ⊢
    exact ⟨l :: w, by simp, hw.mono fun _ h => (List.mem_filter.1 h).1, rfl⟩
  · rintro ⟨w, hw, h, rfl⟩
    obtain ⟨l, w, rfl⟩ := List.exists_cons_of_ne_nil hw
    refine below_mem_walk (fun v hv hvw => ?_) (.inl (List.mem_singleton_self p))
    exact List.mem_filter.2 ⟨h v hv hvw, decide_eq_true (below_ne hv)⟩

/-- What hangs on a page that is not there is no descendant. -/
example :
    let a : PageId := { number := 2, path := [.a] }
    let aa : PageId := { number := 3, path := [.a, .a] }
    let aab : PageId := { number := 4, path := [.a, .a, .b] }
    let ba : PageId := { number := 3, path := [.b, .a] }
    root.descendants [aab, ba, aa, root, a] = [a, aa, aab] := by decide +kernel

theorem descendants_pairwise (p : PageId) (existing : List PageId) :
    (p.descendants existing).Pairwise Before :=
  Ordered.single.walk_pairwise

theorem descendants_nodup (p : PageId) (existing : List PageId) : (p.descendants existing).Nodup :=
  (p.descendants_pairwise existing).imp Before.ne

end PageId
end Gamebook
