import Gamebook.Proofs.Conditional.Bracket
import Gamebook.Proofs.Directive.Around

/-!
# Partners

The partner of an opening token is found by counting: it is the first closing token behind it up to
which every block that is opened on the way is closed again. Pieces of which no block is left open
have their pairs to themselves, whatever stands behind them.
-/

namespace Gamebook

/-- How many bytes pieces take. -/
def Piece.width (ps : List Piece) : Nat := Text.byteLength (ps.flatMap Piece.source)

@[simp] theorem Piece.width_nil : width [] = 0 := rfl

@[simp] theorem Piece.width_append (ps qs : List Piece) : width (ps ++ qs) = width ps + width qs := by
  simp [width]

@[simp] theorem Piece.width_cons (p : Piece) (ps : List Piece) :
    width (p :: ps) = p.source.byteLength + width ps := by
  simp [width]

/-- Two tokens that are partners: the byte offset of the opening one, its test, the two tokens as they
are written, and what stands between them. -/
structure Bracket.Pair where
  start : Nat
  test : Test
  opener : Text
  between : Text
  closer : Text
deriving DecidableEq

namespace Bracket

open Segment.Division (bracketsOf)

/-- The test of a piece that opens a block. -/
def testOf? (p : Piece) : Option Test := p.inside?.bind Directive.opening?

/-- How many blocks are open behind a piece when `n` are open before it; a closing token without a
partner closes nothing. -/
def openAfter (n : Nat) : Option Bracket → Nat
  | none => n
  | some opening => n + 1
  | some closing => n - 1

/-- The first closing token among pieces that closes none of the `n` blocks that are open before them
and of those that they open, with the pieces before it. -/
def partner? (n : Nat) : List Piece → Option (List Piece × Piece)
  | [] => none
  | p :: ps =>
    if n = 0 ∧ ofPiece? p = some closing then some ([], p)
    else (partner? (openAfter n (ofPiece? p)) ps).map fun found => (p :: found.1, found.2)

/-- The pair of a piece that starts at byte `start`, if it opens a block that the pieces behind it
close. -/
def pairAt? (start : Nat) (p : Piece) (ps : List Piece) : Option Pair := do
  let test ← testOf? p
  let (mid, c) ← partner? 0 ps
  some ⟨start, test, p.source, mid.flatMap Piece.source, c.source⟩

/-- The pairs among pieces that start at byte `start`, in the order of their opening tokens. -/
def pairs (start : Nat) : List Piece → List Pair
  | [] => []
  | p :: ps => (pairAt? start p ps).toList ++ pairs (start + p.source.byteLength) ps

/-- How many blocks are left open by brackets when `n` are open before them. -/
def leftOpen (n : Nat) (bs : List Bracket) : Nat := bs.foldl (fun n b => openAfter n (some b)) n

variable {n m start : Nat} {bs : List Bracket} {p c : Piece} {ps qs mid rest : List Piece}

/-! ## Counting -/

theorem openAfter_mono (h : n ≤ m) (b? : Option Bracket) : openAfter n b? ≤ openAfter m b? := by
  match b? with
  | none => exact h
  | some opening => exact Nat.succ_le_succ h
  | some closing => exact Nat.sub_le_sub_right h 1

theorem leftOpen_mono (h : n ≤ m) (bs : List Bracket) : leftOpen n bs ≤ leftOpen m bs := by
  induction bs generalizing n m with
  | nil => exact h
  | cons b bs ih => exact ih (openAfter_mono h (some b))

theorem leftOpen_of_matched (h : matched n bs = true) : leftOpen n bs = 0 := by
  induction bs generalizing n with
  | nil => exact beq_iff_eq.1 h
  | cons b bs ih =>
      cases b with
      | opening => exact ih (n := n + 1) h
      | closing =>
          cases n with
          | zero => cases h
          | succ n => exact ih (n := n) h

theorem leftOpen_bracketsOf_cons (n : Nat) (p : Piece) (ps : List Piece) :
    leftOpen n (bracketsOf (p :: ps)) = leftOpen (openAfter n (ofPiece? p)) (bracketsOf ps) := by
  rw [bracketsOf, List.filterMap_cons]
  cases ofPiece? p <;> rfl

/-- Brackets match from a piece on if it closes an open block, or opens none that is not closed. -/
theorem matched_bracketsOf_cons : matched n (bracketsOf (p :: ps)) = true ↔
    ¬ (n = 0 ∧ ofPiece? p = some closing) ∧
      matched (openAfter n (ofPiece? p)) (bracketsOf ps) = true := by
  rw [bracketsOf, List.filterMap_cons]
  cases ofPiece? p with
  | none => simp [openAfter]
  | some b =>
      cases b with
      | opening => simp [openAfter, matched]
      | closing => cases n <;> simp [openAfter, matched]

/-! ## Finding the partner -/

theorem partner?_append (h : partner? n ps = some (mid, c)) (qs : List Piece) :
    partner? n (ps ++ qs) = some (mid, c) := by
  induction ps generalizing n mid with
  | nil => cases h
  | cons p ps ih =>
      rw [List.cons_append, partner?]
      rw [partner?] at h
      split at h
      · next hp => rw [if_pos hp, h]
      · next hp =>
          obtain ⟨⟨mid, c⟩, hs, he⟩ := Option.map_eq_some_iff.1 h
          cases he
          rw [if_neg hp, ih hs]
          rfl

/-- Behind pieces whose brackets match, the partner is looked for as at their start. -/
theorem partner?_append_of_matched (h : matched n (bracketsOf ps) = true) (qs : List Piece) :
    partner? n (ps ++ qs) = (partner? 0 qs).map fun found => (ps ++ found.1, found.2) := by
  induction ps generalizing n with
  | nil =>
      have hn : n = 0 := beq_iff_eq.1 h
      simp [hn]
  | cons p ps ih =>
      obtain ⟨hp, hm⟩ := matched_bracketsOf_cons.1 h
      rw [List.cons_append, partner?, if_neg hp, ih hm, Option.map_map]
      rfl

/-- The partner is the closing token up to which all brackets match. -/
theorem partner?_eq_some_iff : partner? n ps = some (mid, c) ↔
    ∃ rest, ps = mid ++ c :: rest ∧ ofPiece? c = some closing ∧
      matched n (bracketsOf mid) = true := by
  constructor
  · intro h
    induction ps generalizing n mid with
    | nil => cases h
    | cons p ps ih =>
        rw [partner?] at h
        split at h
        · next hp =>
            cases h
            exact ⟨ps, rfl, hp.2, beq_iff_eq.2 hp.1⟩
        · next hp =>
            obtain ⟨⟨mid, c⟩, hs, he⟩ := Option.map_eq_some_iff.1 h
            cases he
            obtain ⟨rest, rfl, hc, hm⟩ := ih hs
            exact ⟨rest, rfl, hc, matched_bracketsOf_cons.2 ⟨hp, hm⟩⟩
  · rintro ⟨rest, rfl, hc, hm⟩
    rw [partner?_append_of_matched hm, partner?, if_pos ⟨rfl, hc⟩]
    simp

theorem partner?_of_le (h : partner? n ps = none) (hm : n ≤ m) : partner? m ps = none := by
  induction ps generalizing n m with
  | nil => rfl
  | cons p ps ih =>
      rw [partner?] at h ⊢
      split at h
      · cases h
      · next hp =>
          have hz : ¬ (m = 0 ∧ ofPiece? p = some closing) := fun hz =>
            hp ⟨Nat.le_zero.1 (hz.1 ▸ hm), hz.2⟩
          rw [if_neg hz]
          exact Option.map_eq_none_iff.2
            (ih (Option.map_eq_none_iff.1 h) (openAfter_mono hm _))

/-- A block that pieces do not leave open is closed among them. -/
theorem exists_partner (h : leftOpen (n + 1) (bracketsOf ps) = 0) :
    ∃ found, partner? n ps = some found := by
  induction ps generalizing n with
  | nil => cases h
  | cons p ps ih =>
      rw [partner?]
      split
      · exact ⟨_, rfl⟩
      · next hp =>
          rw [leftOpen_bracketsOf_cons] at h
          have hn : openAfter (n + 1) (ofPiece? p) = openAfter n (ofPiece? p) + 1 := by
            cases hb : ofPiece? p with
            | none => rfl
            | some b =>
                cases b with
                | opening => rfl
                | closing =>
                    have hz : n ≠ 0 := fun hz => hp ⟨hz, hb⟩
                    simp only [openAfter]
                    omega
          obtain ⟨found, hf⟩ := ih (hn ▸ h)
          exact ⟨_, by rw [hf]; rfl⟩

/-! ## Pairs -/

theorem ofPiece?_of_testOf? {test : Test} (h : testOf? p = some test) :
    ofPiece? p = some opening := by
  obtain ⟨inner, hi, ht⟩ := Option.bind_eq_some_iff.1 h
  simp [ofPiece?, hi, ofInside?, ht, Directive.isClosing_of_opening? ht]

theorem pairAt?_eq_none (h : ofPiece? p ≠ some opening) : pairAt? start p ps = none := by
  cases ht : testOf? p with
  | none => simp [pairAt?, ht]
  | some test => exact absurd (ofPiece?_of_testOf? ht) h

/-- Pieces that leave no block open have their pairs to themselves. -/
theorem pairs_append (h : leftOpen 0 (bracketsOf ps) = 0) (start : Nat) (qs : List Piece) :
    pairs start (ps ++ qs) =
      pairs start ps ++ pairs (start + Piece.width ps) qs := by
  induction ps generalizing start with
  | nil => rfl
  | cons p ps ih =>
      rw [leftOpen_bracketsOf_cons] at h
      have htail : leftOpen 0 (bracketsOf ps) = 0 :=
        Nat.le_zero.1 (h ▸ leftOpen_mono (Nat.zero_le _) _)
      have hpair : pairAt? start p (ps ++ qs) = pairAt? start p ps := by
        by_cases hp : ofPiece? p = some opening
        · rw [hp] at h
          obtain ⟨⟨mid, c⟩, hf⟩ := exists_partner (n := 0) h
          rw [pairAt?, pairAt?, hf, partner?_append hf]
        · rw [pairAt?_eq_none hp, pairAt?_eq_none hp]
      rw [List.cons_append, pairs, pairs, hpair, ih htail, Piece.width_cons, List.append_assoc,
        Nat.add_assoc]

end Bracket

/-- The pairs of opening and closing tokens of a text. -/
def Text.bracketPairs (t : Text) : List Bracket.Pair := Bracket.pairs 0 (Piece.ofText t)

end Gamebook
