import Gamebook.Proofs.Conditional.Lossless
import Gamebook.Proofs.Conditional.Residue

/-!
# Division is bracket matching

Piece by piece, what division holds of each open block is the division of the pieces behind its opening
token, whose brackets match. When a token closes the block, the pair of the two is one of its pieces'
pairs; when the text ends first, the opening token has no partner and the block dissolves into the one
around it.
-/

namespace Gamebook

namespace Bracket

open Piece (width)

open Segment.Division (bracketsOf)

variable {n m start : Nat} {p q : Piece} {ps qs after : List Piece} {test : Test}

theorem leftOpen_append (n : Nat) (as bs : List Bracket) :
    leftOpen n (as ++ bs) = leftOpen (leftOpen n as) bs := List.foldl_append

/-- The brackets that division comes to: all, or, where it refuses a closing one that has no partner,
those before the first such. -/
def seen (strict : Bool) : Nat → List Bracket → List Bracket
  | _, [] => []
  | n, opening :: bs => opening :: seen strict (n + 1) bs
  | n, closing :: bs => if strict && n == 0 then [] else closing :: seen strict (n - 1) bs

theorem seen_lenient (n : Nat) (bs : List Bracket) : seen false n bs = bs := by
  induction bs generalizing n with
  | nil => rfl
  | cons b bs ih => cases b <;> simp [seen, ih]

theorem bracketsOf_append (ps qs : List Piece) :
    bracketsOf (ps ++ qs) = bracketsOf ps ++ bracketsOf qs := List.filterMap_append

/-- Brackets that match change nothing for those behind them. -/
theorem matched_append {as : List Bracket} (h : matched n as = true) (m : Nat) (bs : List Bracket) :
    matched (n + m) (as ++ bs) = matched m bs := by
  induction as generalizing n with
  | nil =>
      obtain rfl : n = 0 := beq_iff_eq.1 h
      rw [Nat.zero_add, List.nil_append]
  | cons a as ih =>
      cases a with
      | opening =>
          rw [List.cons_append, matched, Nat.add_right_comm]
          exact ih h
      | closing =>
          cases n with
          | zero => cases h
          | succ n =>
              rw [List.cons_append, Nat.add_right_comm]
              exact ih (n := n) h

theorem matched_block {as : List Bracket} (h : matched 0 as = true) :
    matched 0 (opening :: (as ++ [closing])) = true := by
  rw [matched, matched_append h 1]
  rfl

/-- The pieces of a block have the pairs of its body and that of its own two tokens. -/
theorem pairs_block (ht : testOf? q = some test) (hp : ofPiece? p = some closing)
    (hm : matched 0 (bracketsOf after) = true) (start : Nat) :
    pairs start (q :: (after ++ [p])) =
      ⟨start, test, q.source, after.flatMap Piece.source, p.source⟩ ::
        pairs (start + q.source.byteLength) after := by
  have hpair : pairAt? start q (after ++ [p]) =
      some ⟨start, test, q.source, after.flatMap Piece.source, p.source⟩ := by
    have hf := partner?_eq_some_iff.2 ⟨[], rfl, hp, hm⟩
    simp [pairAt?, ht, hf]
  have hlast : pairAt? (start + q.source.byteLength + width after) p [] =
      none := pairAt?_eq_none (by simp [hp])
  rw [pairs, hpair, pairs_append (leftOpen_of_matched hm), pairs, hlast]
  simp [pairs]

/-- An opening token that no token behind it closes has no pair. -/
theorem pairs_unclosed (h : partner? 0 ps = none) (start : Nat) :
    pairs start (p :: ps) = pairs (start + p.source.byteLength) ps := by
  simp [pairs, pairAt?, h]

end Bracket

namespace Segment

open Gamebook.Bracket
open Division (bracketsOf)
open Piece (width)

variable {strict : Bool} {limit : Option Nat} {whole w v run t : Text} {start n : Nat} {s : Segment}
  {ss parts : List Segment} {xs ys : List Bracket.Pair} {p : Piece} {ps qs after : List Piece}
  {d d' : Division} {o : Opened} {os : List Opened}

/-- Whether parts, held newest first, are the division of pieces that start at a byte. -/
def DividesPieces (start : Nat) (ps : List Piece) (parts : List Segment) : Prop :=
  Divides start (ps.flatMap Piece.source) (Bracket.pairs start ps) parts.reverse

/-- The pieces of a block are divided by the division of its body. -/
theorem DividesPieces.addBlock {q : Piece} {test : Test} {inner : List Segment}
    (h : DividesPieces start ps parts) (hps : leftOpen 0 (bracketsOf ps) = 0)
    (ht : testOf? q = some test) (hp : ofPiece? p = some .closing)
    (hm : matched 0 (bracketsOf after) = true)
    (hi : DividesPieces (start + width ps + q.source.byteLength) after inner) :
    DividesPieces start (ps ++ q :: (after ++ [p])) (add (block q.source test (start + width ps)
      inner.reverse (after.flatMap Piece.source) p.source) parts) := by
  have hblock := Divides.add (s := block q.source test (start + width ps) inner.reverse
    (after.flatMap Piece.source) p.source) h ⟨rfl, hi.sources.symm, hi.placed⟩ hi.merged
  rw [DividesPieces, Bracket.pairs_append hps, pairs_block ht hp hm, ← hi.pairs]
  simpa [source, Segment.pairs, hi.sources] using hblock

/-- An opening token that is not closed, and what stands behind it, become text and blocks of the
parts before it. -/
theorem DividesPieces.dissolve (h : DividesPieces start ps parts)
    (hps : leftOpen 0 (bracketsOf ps) = 0) (hp : partner? 0 after = none) {inner : List Segment}
    (hi : DividesPieces (start + width ps + p.source.byteLength) after inner) :
    DividesPieces start (ps ++ p :: after)
      (inner.reverse.foldl (fun qs s => add s qs) (addText p.source parts)) := by
  have hto := h.addText p.source
  have hrest : Divides (start + Text.byteLength (ps.flatMap Piece.source ++ p.source))
      (after.flatMap Piece.source) (Bracket.pairs (start + width ps + p.source.byteLength) after)
      inner.reverse := by
    rw [Text.byteLength_append, ← Nat.add_assoc]
    exact hi
  have hall := hto.append hrest
  rw [DividesPieces, Bracket.pairs_append hps, pairs_unclosed hp, List.flatMap_append,
    List.flatMap_cons, ← List.append_assoc]
  exact hall

namespace Division

/-- A piece becomes text if it is no bracket, or a closing one where no block is open; else it closes
the innermost block, or opens one. -/
theorem step_inversion (h : d.step strict limit whole start p = .ok d') :
    (d' = d.modifyParts (addText p.source) ∧
      (ofPiece? p = none ∨ ofPiece? p = some .closing ∧ d.opened = [])) ∨
    (∃ o os, ofPiece? p = some .closing ∧ d.opened = o :: os ∧
      d' = modifyParts (add (block o.opener o.test o.start o.parts.reverse
        (Text.byteSlice whole (o.start + o.opener.byteLength) start) p.source))
        { d with opened := os }) ∨
    ∃ test, testOf? p = some test ∧
      d' = { d with opened := ⟨p.source, test, start, []⟩ :: d.opened } := by
  rcases step_cases h with ⟨rfl, hp⟩ | ⟨inner, o, os, rfl, hc, ho, rfl⟩ | ⟨inner, test, rfl, -, ht, rfl⟩
  · refine .inl ⟨rfl, ?_⟩
    cases p with
    | plain run => exact .inl rfl
    | token inner =>
        have hp := hp inner rfl
        split at hp
        · next hc => exact .inr ⟨by simp [ofPiece?, Piece.inside?, ofInside?, hc], hp⟩
        · next hc => exact .inl (by simp [ofPiece?, Piece.inside?, ofInside?, hc, hp])
  · exact .inr (.inl ⟨o, os, by simp [ofPiece?, Piece.inside?, ofInside?, hc], ho, rfl⟩)
  · exact .inr (.inr ⟨test, ht, rfl⟩)

/-! ## What division holds of the pieces so far -/

/-- Whether a division holds the pieces that were taken: outside all blocks those that leave none open,
and for each open block its opening token and those behind it, with brackets that match. -/
def Holds (parts : List Segment) : List Opened → List Piece → Prop
  | [], ps => leftOpen 0 (bracketsOf ps) = 0 ∧ DividesPieces 0 ps parts
  | o :: os, ps => ∃ before p after, ps = before ++ p :: after ∧ p.source = o.opener ∧
      testOf? p = some o.test ∧ o.start = width before ∧ matched 0 (bracketsOf after) = true ∧
      DividesPieces (o.start + o.opener.byteLength) after o.parts ∧ Holds parts os before

/-- Pieces that open and close the same blocks are added to the innermost parts. -/
theorem Holds.modifyParts {f : List Segment → List Segment} {more : List Piece}
    (hf : ∀ start ps parts, start + width ps = n → leftOpen 0 (bracketsOf ps) = 0 →
      DividesPieces start ps parts → DividesPieces start (ps ++ more) (f parts))
    (hmore : matched 0 (bracketsOf more) = true ∨
      d.opened = [] ∧ leftOpen 0 (bracketsOf more) = 0)
    (h : Holds d.parts d.opened ps) (hn : width ps = n) :
    Holds (d.modifyParts f).parts (d.modifyParts f).opened (ps ++ more) := by
  obtain ⟨opened, parts⟩ := d
  cases opened with
  | nil =>
      obtain ⟨hps, hd⟩ := h
      have hl : leftOpen 0 (bracketsOf more) = 0 := hmore.elim leftOpen_of_matched And.right
      refine ⟨?_, hf 0 ps parts (by omega) hps hd⟩
      rw [bracketsOf_append, leftOpen_append, hps, hl]
  | cons o os =>
      have hm : matched 0 (bracketsOf more) = true := hmore.resolve_right fun h => nomatch h.1
      obtain ⟨before, p, after, rfl, hp, ht, hs, ha, hd, hb⟩ := h
      refine ⟨before, p, after ++ more, by simp, hp, ht, hs, ?_, ?_, hb⟩
      · rw [bracketsOf_append, ← Nat.zero_add 0, matched_append ha, hm]
      · refine hf _ after o.parts ?_ (leftOpen_of_matched ha) hd
        rw [Piece.width_append, Piece.width_cons] at hn
        rw [hs, ← hp, ← hn, Nat.add_assoc]

/-- A piece that is no part of a pair is text. -/
theorem Holds.addSource (hp : ofPiece? p = none ∨ ofPiece? p = some .closing ∧ d.opened = [])
    (h : Holds d.parts d.opened ps) :
    Holds (d.modifyParts (addText p.source)).parts (d.modifyParts (addText p.source)).opened
      (ps ++ [p]) := by
  have hnone (start : Nat) : Bracket.pairs start [p] = [] := by
    have hb : ofPiece? p ≠ some .opening := by rcases hp with hp | ⟨hp, -⟩ <;> simp [hp]
    simp [Bracket.pairs, pairAt?_eq_none hb]
  refine h.modifyParts (fun start ps parts _ hps hd => ?_) ?_ rfl
  · have hadd := Divides.addText hd p.source
    rw [DividesPieces, Bracket.pairs_append hps, hnone]
    simpa using hadd
  · rcases hp with hp | ⟨hp, ho⟩
    · exact .inl (by simp [bracketsOf, hp, matched])
    · exact .inr ⟨ho, by simp [bracketsOf, hp, leftOpen, openAfter]⟩

/-- The block that a token closes is the pair of the two tokens, and its written body is what stands
between them. -/
theorem Holds.close {parts : List Segment} (hp : ofPiece? p = some .closing)
    (h : Holds parts (o :: os) ps) (hw : whole = (ps ++ p :: qs).flatMap Piece.source)
    {closed : Segment} (hc : closed = block o.opener o.test o.start o.parts.reverse
      (Text.byteSlice whole (o.start + o.opener.byteLength) (width ps)) p.source) :
    Holds (Division.modifyParts (add closed) ⟨os, parts⟩).parts
      (Division.modifyParts (add closed) ⟨os, parts⟩).opened (ps ++ [p]) := by
  obtain ⟨before, q, after, rfl, hq, ht, hs, ha, hd, hb⟩ := h
  have hraw : Text.byteSlice whole (o.start + o.opener.byteLength) (width (before ++ q :: after)) =
      after.flatMap Piece.source := by
    have hmid := Text.byteSlice_middle ((before ++ [q]).flatMap Piece.source)
      (after.flatMap Piece.source) ((p :: qs).flatMap Piece.source)
    simp only [hw, width, List.flatMap_append, List.flatMap_cons, List.flatMap_nil, List.append_nil,
      Text.byteLength_append, List.append_assoc, Nat.add_assoc, hs, ← hq] at hmid ⊢
    exact hmid
  have hbr : bracketsOf (q :: (after ++ [p])) = .opening :: (bracketsOf after ++ [.closing]) := by
    simp [bracketsOf, ofPiece?_of_testOf? ht, hp]
  rw [List.append_assoc, List.cons_append]
  refine Holds.modifyParts (d := ⟨os, parts⟩) (fun start ps parts hn hps hdp => ?_)
    (.inl (hbr ▸ matched_block ha)) hb hs.symm
  rw [hc, hraw, ← hq, ← hn]
  exact hdp.addBlock hps ht hp ha (hn ▸ hq ▸ hd)

theorem Holds.step (h : Holds d.parts d.opened ps)
    (hw : whole = (ps ++ p :: qs).flatMap Piece.source)
    (hd : d.step strict limit whole (width ps) p = .ok d') :
    Holds d'.parts d'.opened (ps ++ [p]) := by
  rcases step_inversion hd with ⟨rfl, hp⟩ | ⟨o, os, hp, ho, rfl⟩ | ⟨test, ht, rfl⟩
  · exact h.addSource hp
  · rw [ho] at h
    exact h.close hp hw rfl
  · exact ⟨ps, p, [], rfl, rfl, ht, rfl, rfl, ⟨rfl, trivial, trivial, rfl⟩, h⟩

theorem Holds.takeAll (h : Holds d.parts d.opened ps)
    (hw : whole = (ps ++ qs).flatMap Piece.source)
    (hd : takeAll strict limit whole (width ps) qs d = .ok d') :
    Holds d'.parts d'.opened (ps ++ qs) := by
  induction qs generalizing d ps with
  | nil =>
      cases hd
      simpa using h
  | cons q qs ih =>
      obtain ⟨next, hs, hd⟩ := takeAll_cons_eq_ok hd
      have hnext : width ps + q.source.byteLength = width (ps ++ [q]) := by simp [width]
      have hrest := ih (h.step hw hs) (by simpa using hw) (hnext ▸ hd)
      simpa using hrest

/-! ## The end of the text -/

/-- Blocks that stay open dissolve, the innermost first: no token behind an opening one closes it. -/
theorem Holds.abandon {parts : List Segment} {before : List Piece} (hb : Holds parts os before)
    (ht : testOf? p = some o.test) (hp : p.source = o.opener) (hs : o.start = width before)
    (ha : partner? 0 after = none)
    (hd : DividesPieces (o.start + o.opener.byteLength) after o.parts) :
    DividesPieces 0 (before ++ p :: after) (abandon parts (o :: os)) := by
  induction os generalizing o p before after with
  | nil =>
      obtain ⟨hl, hb⟩ := hb
      rw [abandon, ← hp]
      exact hb.dissolve hl ha (by rwa [Nat.zero_add, ← hs, hp])
  | cons o' os ih =>
      obtain ⟨before', p', after', rfl, hp', ht', hs', ha', hd', hb'⟩ := hb
      rw [abandon, List.append_assoc, List.cons_append]
      have hopen : partner? 0 (p :: after) = none := by
        have hone := partner?_of_le ha (Nat.zero_le 1)
        simp [partner?, ofPiece?_of_testOf? ht, openAfter, hone]
      refine ih hb' ht' hp' hs' ?_ ?_
      · rw [partner?_append_of_matched ha', hopen]
        rfl
      · rw [← hp]
        refine hd'.dissolve (leftOpen_of_matched ha') ha ?_
        have hat : o.start + o.opener.byteLength =
            o'.start + o'.opener.byteLength + width after' + p.source.byteLength := by
          simp only [hs, hs', ← hp, ← hp', Piece.width_append, Piece.width_cons, Nat.add_assoc]
        rwa [← hat]

/-! ## The limit -/

theorem step_beyond (h : ofPiece? p = some .opening) (hn : n ≤ d.opened.length) :
    d.step strict (some n) whole start p = .error (.tooDeep n) := by
  obtain ⟨inner, test, rfl, hc, ht⟩ := of_opening h
  simp only [step, hc, ht]
  exact if_pos hn

theorem step_stray (h : ofPiece? p = some .closing) (parts : List Segment) :
    step true limit whole ⟨[], parts⟩ start p = .error (.unexpectedClose start) := by
  obtain ⟨inner, rfl, hc⟩ := of_closing h
  simp only [step, hc, if_true]

/-- The limit is hit exactly where the brackets that division comes to are nested deeper. -/
theorem takeAll_tooDeep_iff (hd : d.opened.length ≤ n) (strict : Bool) (whole : Text) (start : Nat)
    (ps : List Piece) : takeAll strict (some n) whole start ps d = .error (.tooDeep n) ↔
      n < depth d.opened.length (seen strict d.opened.length (bracketsOf ps)) := by
  induction ps generalizing start d with
  | nil => exact ⟨fun h => (by cases h), fun h => absurd hd (Nat.not_le.2 h)⟩
  | cons p ps ih =>
      rw [takeAll_cons, bracketsOf, List.filterMap_cons]
      have hsame {d' : Division} (hs : d.step strict (some n) whole start p = .ok d')
          (hl : d'.opened.length ≤ n) :
          ((d.step strict (some n) whole start p).bind
              (takeAll strict (some n) whole (start + p.source.byteLength) ps)) =
            .error (.tooDeep n) ↔
            n < depth d'.opened.length (seen strict d'.opened.length (bracketsOf ps)) := by
        rw [hs]
        exact ih hl _
      cases hb : ofPiece? p with
      | none =>
          have hn := opened_modifyParts (addText p.source) d
          exact hn ▸ hsame (step_text hb) (hn ▸ hd)
      | some b =>
          cases b with
          | opening =>
              simp only [seen, depth]
              rcases step_opening hb strict (some n) whole start d with ⟨d', hs, hl, ha⟩ | ⟨-, hn⟩
              · exact hl ▸ hsame hs (hl ▸ ha n rfl)
              · have hlen : n ≤ d.opened.length := Nat.le_of_not_lt fun hlt =>
                  hn fun m hm => Option.some.inj hm ▸ hlt
                rw [step_beyond hb hlen]
                refine iff_of_true rfl (Nat.lt_of_lt_of_le ?_ (le_depth _ _))
                omega
          | closing =>
              have hc := step_closing hb strict (some n) whole start d
              obtain ⟨opened, parts⟩ := d
              cases opened with
              | nil =>
                  cases strict with
                  | true =>
                      rw [step_stray hb]
                      exact ⟨fun h => (by cases h), fun h => absurd h (Nat.not_lt_zero n)⟩
                  | false =>
                      have hmod := opened_modifyParts (addText p.source) ⟨[], parts⟩
                      have hrest := hsame hc (hmod ▸ hd)
                      rw [hmod] at hrest
                      simpa [seen, depth] using hrest
              | cons o os =>
                  obtain ⟨d', hs, hl⟩ := hc
                  have hlen : d'.opened.length ≤ n := hl ▸ Nat.le_of_succ_le hd
                  have hmax (k : Nat) : n < max (os.length + 1) k ↔ n < k := by
                    have : os.length + 1 ≤ n := hd
                    omega
                  simpa [seen, depth, hmax, hl] using hsame hs hlen

/-! ## The two modes -/

/-- What strict division does with a piece, lenient division does. -/
theorem step_lenient (h : d.step true limit whole start p = .ok d') :
    d.step false limit whole start p = .ok d' := by
  cases p with
  | plain run => exact h
  | token inner =>
      obtain ⟨opened, parts⟩ := d
      cases opened with
      | cons o os => exact h
      | nil =>
          by_cases hc : Directive.isClosing inner = true
          · simp [step, hc] at h
          · simpa [step, hc] using h

theorem takeAll_lenient (h : takeAll true limit whole start ps d = .ok d') :
    takeAll false limit whole start ps d = .ok d' := by
  induction ps generalizing start d with
  | nil => exact h
  | cons p ps ih =>
      obtain ⟨next, hs, h⟩ := takeAll_cons_eq_ok h
      rw [takeAll_cons, step_lenient hs]
      exact ih h

/-- Whatever division takes of a text is the division of it when open blocks have dissolved. -/
theorem divides_of_takeAll (h : takeAll strict limit t 0 (Piece.ofText t) ⟨[], []⟩ = .ok d) :
    Divides 0 t t.bracketPairs (abandon d.parts d.opened).reverse := by
  have hw : t = ([] ++ Piece.ofText t).flatMap Piece.source := (Piece.source_ofText t).symm
  have hempty : Holds (⟨[], []⟩ : Division).parts (⟨[], []⟩ : Division).opened [] :=
    ⟨rfl, rfl, trivial, trivial, rfl⟩
  have hholds : Holds d.parts d.opened ([] ++ Piece.ofText t) := hempty.takeAll hw h
  have hall : DividesPieces 0 (Piece.ofText t) (abandon d.parts d.opened) := by
    rw [List.nil_append] at hholds
    obtain ⟨opened, parts⟩ := d
    cases opened with
    | nil =>
        rw [abandon]
        exact hholds.2
    | cons o os =>
        obtain ⟨before, p, after, he, hp, ht, hs, ha, hd, hb⟩ := hholds
        have hopen : partner? 0 after = none := by
          simpa [partner?] using partner?_append_of_matched ha []
        rw [he]
        exact hb.abandon ht hp hs hopen hd
  rwa [DividesPieces, Piece.source_ofText] at hall

end Division

theorem divide_eq (strict : Bool) (limit : Option Nat) (t : Text) : divide strict limit t =
    (Division.takeAll strict limit t 0 (Piece.ofText t) ⟨[], []⟩).bind fun d =>
      match d.opened with
      | o :: _ =>
        if strict then .error (.unclosed o.opener o.start)
        else .ok (Division.abandon d.parts d.opened).reverse
      | [] => .ok d.parts.reverse := rfl

theorem divide_tooDeep_iff (strict : Bool) (n : Nat) (t : Text) :
    divide strict (some n) t = .error (.tooDeep n) ↔ n < depth 0 (seen strict 0 t.brackets) := by
  refine Iff.trans ?_ (Division.takeAll_tooDeep_iff (d := ⟨[], []⟩) (Nat.zero_le n) strict t 0 _)
  rw [divide_eq]
  cases Division.takeAll strict (some n) t 0 (Piece.ofText t) ⟨[], []⟩ with
  | error e => exact ⟨fun h => (by cases h; rfl), fun h => (by cases h; rfl)⟩
  | ok d =>
      obtain ⟨opened, parts⟩ := d
      cases opened with
      | nil => exact ⟨fun h => (by cases h), fun h => (by cases h)⟩
      | cons o os => cases strict <;> exact ⟨fun h => (by cases h), fun h => (by cases h)⟩

/-- Lenient division of a text within the limit. -/
theorem divide_of_nesting (h : t.nesting ≤ n) :
    divide false (some n) t = .ok (parseLenient (some n) t) ∧
      Divides 0 t t.bracketPairs (parseLenient (some n) t) := by
  have h₀ : Allows (some n) (Division.mk [] []).opened.length := fun m _ => Nat.zero_le m
  have ha : Allows (some n) t.nesting := fun m hm => Option.some.inj hm ▸ h
  obtain ⟨d, hd⟩ := (Division.takeAll_lenient_iff h₀ t 0 (Piece.ofText t)).2 ha
  have hdiv : divide false (some n) t = .ok (Division.abandon d.parts d.opened).reverse := by
    rw [divide_lenient_eq, hd]
    rfl
  rw [parseLenient, hdiv]
  exact ⟨rfl, Division.divides_of_takeAll hd⟩

/-- What strict division gives, lenient division gives. -/
theorem parseLenient_of_parse (h : parse limit t = .ok ss) : parseLenient limit t = ss := by
  rw [parse, divide_eq] at h
  cases hd : Division.takeAll true limit t 0 (Piece.ofText t) ⟨[], []⟩ with
  | error e =>
      rw [hd] at h
      cases h
  | ok d =>
      rw [hd] at h
      obtain ⟨opened, parts⟩ := d
      cases opened with
      | cons o os => cases h
      | nil =>
          cases h
          rw [parseLenient, divide_lenient_eq, Division.takeAll_lenient hd]
          simp [Except.map, Division.abandon]

/-- Division of a text loses nothing and finds the pairs of its brackets: lenient division gives them
wherever the brackets are nested within the limit, strict division gives the same where they match as
well, and either gives up on the limit exactly where those that it comes to are nested deeper. -/
theorem division_is_matching (n : Nat) (t : Text) :
    (divide false (some n) t = .error (.tooDeep n) ↔ n < t.nesting) ∧
    (t.nesting ≤ n → divide false (some n) t = .ok (parseLenient (some n) t) ∧
      Divides 0 t t.bracketPairs (parseLenient (some n) t)) ∧
    (parse (some n) t = .error (.tooDeep n) ↔ n < depth 0 (seen true 0 t.brackets)) ∧
    ∀ ss, parse (some n) t = .ok ss ↔
      matched 0 t.brackets = true ∧ t.nesting ≤ n ∧ parseLenient (some n) t = ss := by
  refine ⟨?_, divide_of_nesting, divide_tooDeep_iff true n t, fun ss => ⟨fun h => ?_, ?_⟩⟩
  · have hlim := divide_tooDeep_iff false n t
    rwa [seen_lenient] at hlim
  · obtain ⟨hm, hn⟩ := isOk_parse_some_iff.1 ⟨ss, h⟩
    exact ⟨hm, hn, parseLenient_of_parse h⟩
  · rintro ⟨hm, hn, rfl⟩
    obtain ⟨ss, hs⟩ := isOk_parse_some_iff.2 ⟨hm, hn⟩
    rw [parseLenient_of_parse hs, hs]

/-- A closing token that comes too early and an opening one that is not closed are in no pair. -/
example : (Text.bracketPairs "\x7b/if\x7d\x7bif:a\x7db\x7bif:c\x7dd\x7b/if\x7d".toList).map
    (fun pair => (pair.start, pair.between)) = [(12, ['d'])] := by decide

end Segment
end Gamebook
