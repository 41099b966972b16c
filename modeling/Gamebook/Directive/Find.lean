import Gamebook.Text.Brace

/-!
# Finds in reading order

Each kind of directive is looked for in a whole text on its own, and what all the passes find is
then put in the order in which it stands in the text. `gather_eq` says that this is what a single
pass finds that shows every token to all readers.
-/

namespace Gamebook

/-- A find with the byte offset of its token. -/
abbrev Find (α : Type) := Nat × α

namespace Find

variable {α : Type}

/-- Finds in the order of their offsets; those at one offset stay in the order that they have. -/
def inOrder (finds : List (Find α)) : List (Find α) := finds.mergeSort fun a b => a.1 ≤ b.1

/-- What `read` finds in the tokens of a text. -/
def inText (read : Text → Option α) (t : Text) : List (Find α) :=
  (Piece.tokens t).filterMap fun (start, inner) => (read inner).map (start, ·)

/-- What some readers, each in a pass of its own, find in a text. -/
def passes (readers : List (Text → Option α)) (t : Text) : List (Find α) :=
  readers.flatMap fun read => inText read t

/-- What some readers find in a text, in the order of the text. -/
def gather (readers : List (Text → Option α)) (t : Text) : List α :=
  (inOrder (passes readers t)).map (·.2)

/-- What some readers find in a text that they read together, token by token. -/
def together (readers : List (Text → Option α)) (t : Text) : List (Find α) :=
  (Piece.tokens t).flatMap fun (start, inner) =>
    (readers.filterMap fun read => read inner).map (start, ·)

theorem inOrder_sorted (finds : List (Find α)) :
    (inOrder finds).Pairwise fun a b => a.1 ≤ b.1 := by
  have h : (inOrder finds).Pairwise fun a b => decide (a.1 ≤ b.1) = true :=
    List.pairwise_mergeSort (fun a b c => by simp only [decide_eq_true_eq]; omega)
      (fun a b => by simp only [Bool.or_eq_true, decide_eq_true_eq]; omega) finds
  exact h.imp (by simp)

/-- The finds at one offset stay in the order that they have. -/
theorem filter_inOrder (finds : List (Find α)) (k : Nat) :
    (inOrder finds).filter (fun a => a.1 == k) = finds.filter fun a => a.1 == k := by
  have hs : (finds.filter fun a => a.1 == k).Sublist (inOrder finds) := by
    refine List.sublist_mergeSort (fun a b c => by simp only [decide_eq_true_eq]; omega)
      (fun a b => by simp only [Bool.or_eq_true, decide_eq_true_eq]; omega) ?_ List.filter_sublist
    refine List.pairwise_of_forall_mem_list fun a ha b hb => ?_
    simp only [List.mem_filter, beq_iff_eq] at ha hb
    simp only [decide_eq_true_eq]
    omega
  have hf := hs.filter fun a => a.1 == k
  rw [List.filter_filter] at hf
  simp only [Bool.and_self] at hf
  exact (hf.eq_of_length
    ((List.mergeSort_perm finds fun a b => a.1 ≤ b.1).filter _).length_eq.symm).symm

/-- Two lists in order that have the same finds at every offset are equal. -/
theorem eq_of_filter_eq {xs ys : List (Find α)} (hx : xs.Pairwise fun a b => a.1 ≤ b.1)
    (hy : ys.Pairwise fun a b => a.1 ≤ b.1)
    (h : ∀ k, xs.filter (fun a => a.1 == k) = ys.filter fun a => a.1 == k) : xs = ys := by
  induction xs generalizing ys with
  | nil =>
    cases ys with
    | nil => rfl
    | cons b bs => have := h b.1; simp at this
  | cons a as ih =>
    cases ys with
    | nil => have := h a.1; simp at this
    | cons b bs =>
      obtain ⟨ha, has⟩ := List.pairwise_cons.1 hx
      obtain ⟨hb, hbs⟩ := List.pairwise_cons.1 hy
      have hab : a ∈ (b :: bs).filter fun c => c.1 == a.1 := by rw [← h]; simp
      have hba : b ∈ (a :: as).filter fun c => c.1 == b.1 := by rw [h]; simp
      replace hab := (List.mem_filter.1 hab).1
      replace hba := (List.mem_filter.1 hba).1
      have hk : a.1 = b.1 := by
        rcases List.mem_cons.1 hab with rfl | hab
        · rfl
        · rcases List.mem_cons.1 hba with rfl | hba
          · rfl
          · exact Nat.le_antisymm (ha b hba) (hb a hab)
      have hfirst := h a.1
      rw [List.filter_cons_of_pos (by simp), List.filter_cons_of_pos (by simp [hk])] at hfirst
      obtain ⟨rfl, -⟩ := List.cons.inj hfirst
      rw [ih has hbs fun k => ?_]
      have := h k
      by_cases hak : a.1 == k <;> simpa [List.filter_cons, hak] using this

/-- Finds in order are the only list in order with the same finds at every offset. -/
theorem inOrder_eq {finds sorted : List (Find α)} (hs : sorted.Pairwise fun a b => a.1 ≤ b.1)
    (h : ∀ k, finds.filter (fun a => a.1 == k) = sorted.filter fun a => a.1 == k) :
    inOrder finds = sorted :=
  eq_of_filter_eq (inOrder_sorted finds) hs fun k => by rw [filter_inOrder, h]

theorem together_sorted (readers : List (Text → Option α)) (t : Text) :
    (together readers t).Pairwise fun a b => a.1 ≤ b.1 := by
  refine List.pairwise_flatMap.2 ⟨fun x _ => ?_, (Piece.tokens_pairwise t).imp fun {x y} hxy => ?_⟩
  · refine List.pairwise_of_forall_mem_list fun a ha b hb => ?_
    obtain ⟨_, -, rfl⟩ := List.mem_map.1 ha
    obtain ⟨_, -, rfl⟩ := List.mem_map.1 hb
    exact Nat.le_refl _
  · intro a ha b hb
    obtain ⟨_, -, rfl⟩ := List.mem_map.1 ha
    obtain ⟨_, -, rfl⟩ := List.mem_map.1 hb
    exact Nat.le_of_lt hxy

/-- At most one token stands at an offset. -/
theorem filter_tokens (t : Text) (k : Nat) :
    ((Piece.tokens t).filter fun x => x.1 == k) = [] ∨
      ∃ inner, ((Piece.tokens t).filter fun x => x.1 == k) = [(k, inner)] := by
  have h := Piece.tokens_pairwise t
  generalize Piece.tokens t = toks at h ⊢
  induction toks with
  | nil => exact .inl rfl
  | cons x xs ih =>
    obtain ⟨hx, hxs⟩ := List.pairwise_cons.1 h
    by_cases hk : x.1 = k
    · have : xs.filter (fun y => y.1 == k) = [] :=
        List.filter_eq_nil_iff.2 fun y hy => by have := hx y hy; simp; omega
      exact .inr ⟨x.2, by rw [List.filter_cons_of_pos (by simp [hk]), this, ← hk]⟩
    · rw [List.filter_cons_of_neg (by simp [hk])]
      exact ih hxs

theorem filter_inText (read : Text → Option α) (t : Text) (k : Nat) :
    (inText read t).filter (fun a => a.1 == k) =
      ((Piece.tokens t).filter fun x => x.1 == k).filterMap fun x => (read x.2).map (x.1, ·) := by
  unfold inText
  induction Piece.tokens t with
  | nil => rfl
  | cons x xs ih =>
    rw [List.filterMap_cons, List.filter_cons]
    cases hr : read x.2 <;> by_cases hk : x.1 == k <;> simp [hr, hk, ih]

theorem filter_together (readers : List (Text → Option α)) (t : Text) (k : Nat) :
    (together readers t).filter (fun a => a.1 == k) =
      ((Piece.tokens t).filter fun x => x.1 == k).flatMap fun x =>
        (readers.filterMap fun read => read x.2).map (x.1, ·) := by
  unfold together
  induction Piece.tokens t with
  | nil => rfl
  | cons x xs ih =>
    rw [List.flatMap_cons, List.filter_append, ih, List.filter_cons]
    by_cases hk : x.1 == k <;> simp [hk, List.filter_map, Function.comp_def, List.filter_eq_self.2]

/-- Readers that go through a text one after another find what they find together. -/
theorem inOrder_passes (readers : List (Text → Option α)) (t : Text) :
    inOrder (passes readers t) = together readers t := by
  refine inOrder_eq (together_sorted readers t) fun k => ?_
  rw [passes, List.filter_flatMap, filter_together]
  simp only [filter_inText]
  rcases filter_tokens t k with h | ⟨inner, h⟩
  · simp [h]
  · simp only [h]
    induction readers with
    | nil => rfl
    | cons read readers ih =>
      rw [List.flatMap_cons, ih]
      cases hr : read inner <;> simp [hr]

/-- What readers find in the order of the text is what they find together. -/
theorem gather_eq (readers : List (Text → Option α)) (t : Text) :
    gather readers t =
      (Piece.tokens t).flatMap fun x => readers.filterMap fun read => read x.2 := by
  rw [gather, inOrder_passes, together, List.map_flatMap]
  simp [Function.comp_def]

end Find
end Gamebook
