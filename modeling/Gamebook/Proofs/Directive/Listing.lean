import Gamebook.Proofs.Conditional.Head
import Gamebook.Proofs.Directive.Keyword

/-!
# What each token adds to a listing

Every command of a listing stands where a token stands. A token that is not twofold adds one at most,
so the commands of a text without twofold tokens stand one behind another.
-/

namespace Gamebook

namespace Find

variable {α : Type} {t : Text} {x : Nat × Text} {xs : List (Find α)}

/-- Finds in order are one behind another exactly if no two are at one offset. -/
theorem pairwise_lt_iff (h : xs.Pairwise fun a b => a.1 ≤ b.1) :
    (xs.Pairwise fun a b => a.1 < b.1) ↔ ∀ k, (xs.filter fun a => a.1 == k).length ≤ 1 := by
  induction xs with
  | nil => simp
  | cons x xs ih =>
      obtain ⟨hx, hxs⟩ := List.pairwise_cons.1 h
      rw [List.pairwise_cons, ih hxs]
      constructor
      · rintro ⟨hlt, hk⟩ k
        rw [List.filter_cons]
        split
        · next he =>
            have hnone : (xs.filter fun a => a.1 == k) = [] :=
              List.filter_eq_nil_iff.2 fun a ha => by
                have := hlt a ha
                simp only [beq_iff_eq] at he ⊢
                omega
            simp [hnone]
        · exact hk k
      · refine fun hk => ⟨fun a ha => ?_, fun k => ?_⟩
        · have hle := hx a ha
          refine Nat.lt_of_le_of_ne hle fun he => ?_
          have htwo := hk x.1
          rw [List.filter_cons_of_pos (by simp), List.length_cons] at htwo
          have hpos : 0 < (xs.filter fun a => a.1 == x.1).length :=
            List.length_pos_of_mem (List.mem_filter.2 ⟨ha, by simp [he]⟩)
          omega
        · exact Nat.le_trans ((List.sublist_cons_self x xs).filter _).length_le (hk k)

theorem filter_tokens_of_mem (h : x ∈ Piece.tokens t) :
    ((Piece.tokens t).filter fun y => y.1 == x.1) = [x] := by
  have hm : x ∈ (Piece.tokens t).filter fun y => y.1 == x.1 := List.mem_filter.2 ⟨h, by simp⟩
  rcases filter_tokens t x.1 with hnone | ⟨inner, hone⟩
  · rw [hnone] at hm
    cases hm
  · rw [hone] at hm ⊢
    rw [List.mem_singleton.1 hm]

theorem eq_of_mem_tokens {y : Nat × Text} (hx : x ∈ Piece.tokens t) (hy : y ∈ Piece.tokens t)
    (h : y.1 = x.1) : y = x := by
  have hm : y ∈ (Piece.tokens t).filter fun y => y.1 == x.1 := List.mem_filter.2 ⟨hy, by simp [h]⟩
  rw [filter_tokens_of_mem hx] at hm
  exact List.mem_singleton.1 hm

theorem exists_of_mem_inText {read : Text → Option α} {a : Find α} (h : a ∈ inText read t) :
    ∃ inner, (a.1, inner) ∈ Piece.tokens t ∧ read inner = some a.2 := by
  obtain ⟨⟨start, inner⟩, hx, hr⟩ := List.mem_filterMap.1 h
  obtain ⟨b, hb, rfl⟩ := Option.map_eq_some_iff.1 hr
  exact ⟨inner, hx, hb⟩

theorem filter_passes (readers : List (Text → Option α)) (h : x ∈ Piece.tokens t) :
    ((passes readers t).filter fun a => a.1 == x.1) =
      (readers.filterMap fun read => read x.2).map (x.1, ·) := by
  rw [← filter_inOrder, inOrder_passes, filter_together, filter_tokens_of_mem h, List.flatMap_cons,
    List.flatMap_nil, List.append_nil]

end Find

namespace Listing

open Directive

variable {t : Text} {x : Nat × Text} {c : Find Directive}

/-! ## Blocks -/

theorem map_fst_conditionals (t : Text) : (conditionals t).map (·.1) =
    (Segment.heads (Segment.parseLenient none t)).map (·.1) := by
  simp [conditionals, Segment.heads, Function.comp_def]

theorem exists_of_mem_conditionals (h : c ∈ conditionals t) :
    ∃ inner, (c.1, inner) ∈ Piece.tokens t ∧ (opening? inner).isSome = true := by
  have hm : c.1 ∈ (conditionals t).map (·.1) := List.mem_map_of_mem h
  rw [map_fst_conditionals] at hm
  obtain ⟨head, hhead, he⟩ := List.mem_map.1 hm
  obtain ⟨inner, hx, ho⟩ :=
    Find.exists_of_mem_inText ((Segment.heads_parseLenient none t).subset hhead)
  exact ⟨inner, he ▸ hx, ho ▸ rfl⟩

theorem conditionals_pairwise (t : Text) : (conditionals t).Pairwise fun a b => a.1 < b.1 := by
  have hopen : (Find.inText opening? t).Pairwise fun a b => a.1 < b.1 := by
    refine (Piece.tokens_pairwise t).filterMap _ fun a b hab y hy z hz => ?_
    obtain ⟨_, -, rfl⟩ := Option.map_eq_some_iff.1 hy
    obtain ⟨_, -, rfl⟩ := Option.map_eq_some_iff.1 hz
    exact hab
  have hheads := hopen.sublist (Segment.heads_parseLenient none t)
  rw [← List.pairwise_map (f := Prod.fst) (R := (· < ·)), ← map_fst_conditionals] at hheads
  exact List.pairwise_map.1 hheads

/-- At a token that opens no block no block begins. -/
theorem filter_conditionals (h : x ∈ Piece.tokens t) (ho : (opening? x.2).isSome = false) :
    ((conditionals t).filter fun c => c.1 == x.1) = [] := by
  refine List.filter_eq_nil_iff.2 fun c hc he => ?_
  obtain ⟨inner, hx, hopen⟩ := exists_of_mem_conditionals hc
  cases Find.eq_of_mem_tokens h hx (beq_iff_eq.1 he)
  cases ho.symm.trans hopen

/-! ## Commands -/

theorem placed_sorted (t : Text) : (placed t).Pairwise fun a b => a.1 ≤ b.1 :=
  Find.inOrder_sorted _

theorem exists_of_mem_placed (h : c ∈ placed t) : ∃ inner, (c.1, inner) ∈ Piece.tokens t := by
  rcases List.mem_append.1 (List.mem_mergeSort.1 h) with hc | hc
  · obtain ⟨read, -, hc⟩ := List.mem_flatMap.1 hc
    obtain ⟨inner, hx, -⟩ := Find.exists_of_mem_inText hc
    exact ⟨inner, hx⟩
  · obtain ⟨inner, hx, -⟩ := exists_of_mem_conditionals hc
    exact ⟨inner, hx⟩

/-- The commands at a token are those that readers accept it for, and the block that it opens. -/
theorem filter_placed (h : x ∈ Piece.tokens t) : ((placed t).filter fun c => c.1 == x.1) =
    (readers.filterMap fun read => read x.2).map (x.1, ·) ++
      (conditionals t).filter fun c => c.1 == x.1 := by
  rw [placed, Find.filter_inOrder, List.filter_append, Find.filter_passes readers h]

/-- A token adds more than one command exactly if it is twofold. -/
theorem length_filter_placed_le_one_iff (h : x ∈ Piece.tokens t) :
    ((placed t).filter fun c => c.1 == x.1).length ≤ 1 ↔ isTwofold x.2 = false := by
  rw [filter_placed h, List.length_append, List.length_map]
  cases ho : (opening? x.2).isSome with
  | false =>
      rw [filter_conditionals h ho, List.length_nil, Nat.add_zero]
      exact length_readers_le_one_iff
  | true =>
      have hblock := (Find.pairwise_lt_iff
        ((conditionals_pairwise t).imp Nat.le_of_lt)).1 (conditionals_pairwise t) x.1
      rw [reads_of_opening? ho, List.length_nil, Nat.zero_add]
      exact ⟨fun _ => (kindOf_of_opening? ho).2, fun _ => hblock⟩

/-- A token that shows an asset adds nothing but that asset. -/
theorem filter_placed_of_asset? {ref : AssetRef} (h : x ∈ Piece.tokens t)
    (ha : asset? x.2 = some ref) :
    ((placed t).filter fun c => c.1 == x.1) = [(x.1, .asset ref)] := by
  obtain ⟨hk, ht⟩ := kindOf_of_asset? (ha ▸ rfl : (asset? x.2).isSome = true)
  have ho : (opening? x.2).isSome = false := by
    refine Bool.eq_false_iff.2 fun ho => ?_
    have he := hk.symm.trans (kindOf_of_opening? ho).1
    exact absurd he (by decide)
  have hone := length_readers_le_one_iff.2 ht
  have hm : Directive.asset ref ∈ readers.filterMap fun read => read x.2 := by
    refine List.mem_filterMap.2 ⟨fun inner => (asset? inner).map .asset, by simp [readers], ?_⟩
    simp [ha]
  rw [filter_placed h, filter_conditionals h ho, List.append_nil]
  obtain ⟨d, hd⟩ := List.length_eq_one_iff.1 (Nat.le_antisymm hone (List.length_pos_of_mem hm))
  rw [hd] at hm ⊢
  rw [← List.mem_singleton.1 hm]
  rfl

/-- Each command of a listing stands at a token of the prose; a token adds at most one unless it is
twofold, and nothing else if it shows an asset; and the commands stand one behind another exactly if
no token is twofold. -/
theorem directives_of_tokens (t : Text) :
    let prose := (Choice.split t).2
    (ofText t).directives = (placed prose).map (·.2) ∧
    (∀ c ∈ placed prose, ∃ inner, (c.1, inner) ∈ Piece.tokens prose) ∧
    (∀ x ∈ Piece.tokens prose,
      (((placed prose).filter fun c => c.1 == x.1).length ≤ 1 ↔ isTwofold x.2 = false) ∧
      ∀ ref, asset? x.2 = some ref →
        ((placed prose).filter fun c => c.1 == x.1) = [(x.1, .asset ref)]) ∧
    (((placed prose).Pairwise fun a b => a.1 < b.1) ↔
      ∀ x ∈ Piece.tokens prose, isTwofold x.2 = false) := by
  intro prose
  refine ⟨rfl, fun c hc => exists_of_mem_placed hc, fun x hx =>
    ⟨length_filter_placed_le_one_iff hx, fun ref => filter_placed_of_asset? hx⟩, ?_⟩
  rw [Find.pairwise_lt_iff (placed_sorted prose)]
  constructor
  · exact fun h x hx => (length_filter_placed_le_one_iff hx).1 (h x.1)
  · intro h k
    -- at an offset without a token there is no command
    cases hf : (placed prose).filter fun c => c.1 == k with
    | nil => exact Nat.zero_le 1
    | cons c cs =>
        have hc : c ∈ (placed prose).filter fun c => c.1 == k := hf ▸ List.mem_cons_self
        obtain ⟨hc, hk⟩ := List.mem_filter.1 hc
        obtain ⟨inner, hx⟩ := exists_of_mem_placed hc
        have hone := (length_filter_placed_le_one_iff hx).2 (h _ hx)
        rwa [beq_iff_eq.1 hk, hf] at hone

/-- Music with a long s in its keyword and a file named `loop` is a second command at its offset: the
file `muſic`, which is to loop. -/
theorem directives_of_long_s :
    let t := "\x7bmu\u017fic:loop\x7d".toList
    (Choice.split t).2 = t ∧
    placed t = [(0, .sound (.music "loop" false)), (0, .sound (.ambient "mu\u017fic"))] := by
  intro t
  have hnone : conditionals t = [] := by decide +kernel
  rw [placed, hnone, List.append_nil, Find.inOrder_passes]
  decide +kernel

end Listing
end Gamebook
