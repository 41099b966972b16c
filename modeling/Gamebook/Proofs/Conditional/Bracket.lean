import Gamebook.Proofs.Conditional.LineEnd
import Gamebook.Proofs.Text.Brace

/-!
# Brackets

The tokens that open and close blocks are the brackets of a text. Strict division succeeds exactly for
texts whose brackets match and are nested no deeper than the limit, and lenient division gives up
exactly where they are nested deeper.
-/

namespace Gamebook

/-- A token that opens a block, or one that closes it. -/
inductive Bracket where
  | opening | closing
deriving DecidableEq

namespace Bracket

/-- The bracket that a token with this inside is. -/
def ofInside? (inner : Text) : Option Bracket :=
  if Directive.isClosing inner then some closing
  else (Directive.opening? inner).map fun _ => opening

/-- The bracket that a piece is. -/
def ofPiece? (p : Piece) : Option Bracket := p.inside?.bind ofInside?

theorem of_none {inner : Text} (h : ofPiece? (.token inner) = none) :
    ¬ Directive.isClosing inner = true ∧ Directive.opening? inner = none := by
  simp only [ofPiece?, Piece.inside?, Option.bind_some, ofInside?] at h
  split at h
  · cases h
  · next hc => exact ⟨hc, Option.map_eq_none_iff.1 h⟩

theorem of_opening {p : Piece} (h : ofPiece? p = some opening) : ∃ inner test,
    p = .token inner ∧ ¬ Directive.isClosing inner = true ∧
      Directive.opening? inner = some test := by
  cases p with
  | plain run => cases h
  | token inner =>
      simp only [ofPiece?, Piece.inside?, Option.bind_some, ofInside?] at h
      split at h
      · cases h
      · next hc =>
          obtain ⟨test, ht, -⟩ := Option.map_eq_some_iff.1 h
          exact ⟨inner, test, rfl, hc, ht⟩

theorem of_closing {p : Piece} (h : ofPiece? p = some closing) :
    ∃ inner, p = .token inner ∧ Directive.isClosing inner = true := by
  cases p with
  | plain run => cases h
  | token inner =>
      simp only [ofPiece?, Piece.inside?, Option.bind_some, ofInside?] at h
      split at h
      · next hc => exact ⟨inner, rfl, hc⟩
      · obtain ⟨-, -, ho⟩ := Option.map_eq_some_iff.1 h
        cases ho

/-- Whether brackets match when `n` blocks are open before them, and leave none of them open. -/
def matched : Nat → List Bracket → Bool
  | n, [] => n == 0
  | n, opening :: bs => matched (n + 1) bs
  | 0, closing :: _ => false
  | n + 1, closing :: bs => matched n bs

/-- How many blocks are open at once at most when `n` are open before the brackets; a closing one
that has no partner closes nothing. -/
def depth : Nat → List Bracket → Nat
  | n, [] => n
  | n, opening :: bs => depth (n + 1) bs
  | n, closing :: bs => max n (depth (n - 1) bs)

theorem le_depth (n : Nat) (bs : List Bracket) : n ≤ depth n bs := by
  induction bs generalizing n with
  | nil => exact Nat.le_refl n
  | cons b bs ih =>
      cases b with
      | opening => exact Nat.le_trans (Nat.le_succ n) (ih (n + 1))
      | closing => exact Nat.le_max_left _ _

end Bracket

namespace Text

/-- The brackets of a text, in order. -/
def brackets (t : Text) : List Bracket := (Piece.ofText t).filterMap Bracket.ofPiece?

/-- How many blocks are open at once at most in a text. -/
def nesting (t : Text) : Nat := Bracket.depth 0 t.brackets

end Text

namespace Segment

variable {strict : Bool} {limit : Option Nat} {whole : Text} {start : Nat} {p : Piece}
  {ps : List Piece} {d : Division} {t : Text}

/-- Whether a limit, if there is one, allows so many open blocks. -/
def Allows (limit : Option Nat) (n : Nat) : Prop := ∀ m, limit = some m → n ≤ m

theorem allows_none (n : Nat) : Allows none n := by
  intro m hm
  cases hm

theorem Allows.mono {n k : Nat} (h : Allows limit n) (hk : k ≤ n) : Allows limit k :=
  fun m hm => Nat.le_trans hk (h m hm)

namespace Division

@[simp] theorem opened_modifyParts (f : List Segment → List Segment) (d : Division) :
    (d.modifyParts f).opened.length = d.opened.length := by
  obtain ⟨opened, parts⟩ := d
  cases opened <;> rfl

theorem step_text (h : Bracket.ofPiece? p = none) :
    d.step strict limit whole start p = .ok (d.modifyParts (addText p.source)) := by
  cases p with
  | plain run => rfl
  | token inner =>
      obtain ⟨hc, ho⟩ := Bracket.of_none h
      simp only [step, hc, ho]
      rfl

/-- An opening bracket opens a block where the limit allows one more. -/
theorem step_opening (h : Bracket.ofPiece? p = some .opening) (strict : Bool)
    (limit : Option Nat) (whole : Text) (start : Nat) (d : Division) :
    (∃ d', d.step strict limit whole start p = .ok d' ∧ d'.opened.length = d.opened.length + 1 ∧
      Allows limit (d.opened.length + 1)) ∨
    (∃ e, d.step strict limit whole start p = .error e) ∧
      ¬ Allows limit (d.opened.length + 1) := by
  obtain ⟨inner, test, rfl, hc, ht⟩ := Bracket.of_opening h
  simp only [step, hc, ht]
  cases limit with
  | none => exact .inl ⟨_, rfl, rfl, allows_none _⟩
  | some n =>
      by_cases hn : n ≤ d.opened.length
      · refine .inr ⟨⟨.tooDeep n, if_pos hn⟩, fun ha => ?_⟩
        have := ha n rfl
        omega
      · refine .inl ⟨_, if_neg hn, rfl, fun m hm => ?_⟩
        cases hm
        omega

theorem step_closing (h : Bracket.ofPiece? p = some .closing) (strict : Bool)
    (limit : Option Nat) (whole : Text) (start : Nat) (d : Division) :
    match d.opened with
    | _ :: os => ∃ d', d.step strict limit whole start p = .ok d' ∧ d'.opened.length = os.length
    | [] => if strict then ∃ e, d.step strict limit whole start p = .error e
        else d.step strict limit whole start p = .ok (d.modifyParts (addText p.source)) := by
  obtain ⟨inner, rfl, hc⟩ := Bracket.of_closing h
  simp only [step, hc, if_true]
  obtain ⟨opened, parts⟩ := d
  cases opened with
  | nil => cases strict <;> simp
  | cons o os => exact ⟨_, rfl, opened_modifyParts _ _⟩

/-- The brackets among pieces. -/
abbrev bracketsOf (ps : List Piece) : List Bracket := ps.filterMap Bracket.ofPiece?

/-- Taking pieces strictly succeeds, with no block left open, exactly if their brackets match within
the limit. -/
theorem takeAll_strict_iff (hd : Allows limit d.opened.length) (whole : Text) (start : Nat)
    (ps : List Piece) : (∃ d', takeAll true limit whole start ps d = .ok d' ∧ d'.opened = []) ↔
      Bracket.matched d.opened.length (bracketsOf ps) = true ∧
        Allows limit (Bracket.depth d.opened.length (bracketsOf ps)) := by
  induction ps generalizing start d with
  | nil =>
      simp only [bracketsOf, List.filterMap_nil, Bracket.matched, Bracket.depth, beq_iff_eq,
        List.length_eq_zero_iff]
      refine ⟨?_, fun h => ⟨d, rfl, h.1⟩⟩
      rintro ⟨d', hd', ho⟩
      cases hd'
      exact ⟨ho, hd⟩
  | cons p ps ih =>
      rw [takeAll_cons, bracketsOf, List.filterMap_cons]
      cases hb : Bracket.ofPiece? p with
      | none =>
          have hn := opened_modifyParts (addText p.source) d
          rw [step_text hb, ← hn]
          exact ih (hn ▸ hd) _
      | some b =>
          cases b with
          | opening =>
              simp only [Bracket.matched, Bracket.depth]
              rcases step_opening hb true limit whole start d with ⟨d', hs, hl, ha⟩ | ⟨⟨e, hs⟩, hn⟩
              · rw [hs, ← hl]
                exact ih (hl ▸ ha) _
              · rw [hs]
                refine ⟨fun ⟨_, h, _⟩ => (by cases h), fun h => ?_⟩
                exact absurd (h.2.mono (Bracket.le_depth _ _)) hn
          | closing =>
              have hc := step_closing hb true limit whole start d
              obtain ⟨opened, parts⟩ := d
              cases opened with
              | nil =>
                  obtain ⟨e, hs⟩ := hc
                  rw [hs]
                  exact ⟨fun ⟨_, h, _⟩ => (by cases h), fun h => (by cases h.1)⟩
              | cons o os =>
                  obtain ⟨d', hs, hl⟩ := hc
                  have hd' : Allows limit d'.opened.length :=
                    hd.mono (hl ▸ Nat.le_succ os.length)
                  rw [hs]
                  simp only [List.length_cons, Bracket.matched, Bracket.depth,
                    Nat.add_sub_cancel, ← hl]
                  refine (ih hd' _).trans (and_congr_right fun _ => ⟨fun h m hm => ?_, fun h => ?_⟩)
                  · exact Nat.max_le.2 ⟨hl ▸ hd m hm, h m hm⟩
                  · exact h.mono (Nat.le_max_right _ _)

/-- Taking pieces leniently succeeds exactly if their brackets stay within the limit. -/
theorem takeAll_lenient_iff (hd : Allows limit d.opened.length) (whole : Text) (start : Nat)
    (ps : List Piece) : (∃ d', takeAll false limit whole start ps d = .ok d') ↔
      Allows limit (Bracket.depth d.opened.length (bracketsOf ps)) := by
  induction ps generalizing start d with
  | nil => exact ⟨fun _ => hd, fun _ => ⟨d, rfl⟩⟩
  | cons p ps ih =>
      rw [takeAll_cons, bracketsOf, List.filterMap_cons]
      have htext {d' : Division} (hs : d.step false limit whole start p = .ok d')
          (hl : d'.opened.length = d.opened.length) :
          (∃ d', ((d.step false limit whole start p).bind
              (takeAll false limit whole (start + p.source.byteLength) ps)) = .ok d') ↔
            Allows limit (Bracket.depth d.opened.length (bracketsOf ps)) := by
        rw [hs, ← hl]
        exact ih (hl ▸ hd) _
      cases hb : Bracket.ofPiece? p with
      | none => exact htext (step_text hb) (opened_modifyParts _ _)
      | some b =>
          cases b with
          | opening =>
              simp only [Bracket.depth]
              rcases step_opening hb false limit whole start d with ⟨d', hs, hl, ha⟩ | ⟨⟨e, hs⟩, hn⟩
              · rw [hs, ← hl]
                exact ih (hl ▸ ha) _
              · rw [hs]
                exact ⟨fun ⟨_, h⟩ => (by cases h), fun h =>
                  absurd (h.mono (Bracket.le_depth _ _)) hn⟩
          | closing =>
              have hc := step_closing hb false limit whole start d
              have hmax (n : Nat) : Allows limit (max d.opened.length n) ↔ Allows limit n :=
                ⟨fun h => h.mono (Nat.le_max_right _ _),
                  fun h m hm => Nat.max_le.2 ⟨hd m hm, h m hm⟩⟩
              simp only [Bracket.depth, hmax]
              obtain ⟨opened, parts⟩ := d
              cases opened with
              | nil => exact htext hc (opened_modifyParts _ _)
              | cons o os =>
                  obtain ⟨d', hs, hl⟩ := hc
                  rw [hs]
                  simp only [List.length_cons, Nat.add_sub_cancel, ← hl]
                  exact ih (hd.mono (hl ▸ Nat.le_succ os.length)) _

end Division

/-- Strict division succeeds exactly for matched brackets within the limit. -/
theorem isOk_parse_iff : (∃ ss, parse limit t = .ok ss) ↔
    Bracket.matched 0 t.brackets = true ∧ Allows limit t.nesting := by
  have hd : Allows limit (Division.mk [] []).opened.length := fun m _ => Nat.zero_le m
  refine Iff.trans ?_ (Division.takeAll_strict_iff hd t 0 (Piece.ofText t))
  have hp : parse limit t =
      (Division.takeAll true limit t 0 (Piece.ofText t) ⟨[], []⟩).bind fun d =>
        match d.opened with
        | o :: _ => .error (.unclosed o.opener o.start)
        | [] => .ok d.parts.reverse := rfl
  rw [hp]
  cases Division.takeAll true limit t 0 (Piece.ofText t) ⟨[], []⟩ with
  | error e => exact ⟨fun ⟨_, h⟩ => (by cases h), fun ⟨_, h, _⟩ => (by cases h)⟩
  | ok d =>
      obtain ⟨opened, parts⟩ := d
      cases opened with
      | nil => exact ⟨fun _ => ⟨_, rfl, rfl⟩, fun _ => ⟨_, rfl⟩⟩
      | cons o os =>
          refine ⟨fun ⟨_, h⟩ => (by cases h), fun ⟨_, h, ho⟩ => ?_⟩
          cases h
          cases ho

theorem isOk_parse_some_iff {n : Nat} : (∃ ss, parse (some n) t = .ok ss) ↔
    Bracket.matched 0 t.brackets = true ∧ t.nesting ≤ n :=
  isOk_parse_iff.trans
    (and_congr_right fun _ => ⟨fun h => h n rfl, fun h _ hm => Option.some.inj hm ▸ h⟩)

end Segment
end Gamebook
