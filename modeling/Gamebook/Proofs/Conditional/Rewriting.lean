import Gamebook.Proofs.Conditional.Matching
import Mathlib.Logic.Relation

/-!
# Rewriting innermost blocks

Blocks can be resolved by rewriting: an innermost block is replaced by its body if its test holds, and
by nothing if not, until no block is left. Each step shortens the text, keeps its brackets matched and
leaves alone what resolving in one pass makes of it. So however the blocks are chosen, rewriting ends,
and it ends in that.
-/

namespace Gamebook

open Relation

/-- Whether a piece is a run without braces, or a token that opens or closes a block. -/
def Piece.IsBlockPart : Piece → Prop
  | plain run => '\x7b' ∉ run ∧ '\x7d' ∉ run
  | token inner => (Bracket.ofInside? inner).isSome = true

instance : DecidablePred Piece.IsBlockPart
  | .plain run => inferInstanceAs (Decidable ('\x7b' ∉ run ∧ '\x7d' ∉ run))
  | .token inner => inferInstanceAs (Decidable ((Bracket.ofInside? inner).isSome = true))

namespace Text

/-- Whether every brace of a text belongs to a token that opens or closes a block. -/
def OnlyBlocks (t : Text) : Prop := ∀ p ∈ Piece.ofText t, p.IsBlockPart

instance : DecidablePred OnlyBlocks := fun t =>
  inferInstanceAs (Decidable (∀ p ∈ Piece.ofText t, p.IsBlockPart))

/-- Replaces a block in whose body none stands. -/
inductive Rewrites (vars : Variables) : Text → Text → Prop
  | block {opener closer : Text} {test : Test} (before body after : Text)
    (ho : (Piece.token opener).Proper) (ht : Directive.opening? opener = some test)
    (hc : (Piece.token closer).Proper) (hcl : Directive.isClosing closer = true)
    (hbody : body.brackets = []) :
    Rewrites vars
      (before ++ ((Piece.token opener).source ++ (body ++ ((Piece.token closer).source ++ after))))
      (before ++ ((if test.holds vars then body else []) ++ after))

/-- Whether rewriting resolves all blocks of a text: it has no braces but theirs, their brackets match,
and they are nested within a limit. -/
structure Resolvable (n : Nat) (t : Text) : Prop where
  onlyBlocks : t.OnlyBlocks
  matched : Bracket.matched 0 t.brackets = true
  nesting : t.nesting ≤ n

end Text

/-! ## Brackets without an innermost pair -/

namespace Bracket

variable {n : Nat} {bs : List Bracket}

theorem matched_without_pair (n : Nat) (as bs : List Bracket) :
    matched n (as ++ opening :: closing :: bs) = matched n (as ++ bs) := by
  induction as generalizing n with
  | nil => rfl
  | cons a as ih =>
      cases a with
      | opening => exact ih (n + 1)
      | closing =>
          cases n with
          | zero => rfl
          | succ n => exact ih n

theorem depth_without_pair (n : Nat) (as bs : List Bracket) :
    depth n (as ++ bs) ≤ depth n (as ++ opening :: closing :: bs) := by
  induction as generalizing n with
  | nil => exact Nat.le_max_right (n + 1) (depth n bs)
  | cons a as ih =>
      cases a with
      | opening => exact ih (n + 1)
      | closing => exact Nat.max_le.2 ⟨Nat.le_max_left _ _, Nat.le_trans (ih _) (Nat.le_max_right _ _)⟩

/-- Where a block is opened and all are closed, one is closed as soon as it is opened. -/
theorem exists_innermost (h : matched n bs = true) (ho : opening ∈ bs) :
    ∃ as cs, bs = as ++ opening :: closing :: cs := by
  induction bs generalizing n with
  | nil => cases ho
  | cons b bs ih =>
      have hbehind {n : Nat} (h : matched n bs = true) (ho : opening ∈ bs) (b : Bracket) :
          ∃ as cs, b :: bs = as ++ opening :: closing :: cs := by
        obtain ⟨as, cs, he⟩ := ih h ho
        exact ⟨b :: as, cs, he ▸ rfl⟩
      cases b with
      | closing =>
          cases n with
          | zero => cases h
          | succ n => exact hbehind (n := n) h (List.mem_of_ne_of_mem (by decide) ho) _
      | opening =>
          match bs with
          | [] => cases h
          | closing :: cs => exact ⟨[], cs, rfl⟩
          | opening :: cs => exact hbehind (n := n + 1) h List.mem_cons_self _

theorem opening_mem_of_matched (h : matched 0 bs = true) (hb : bs ≠ []) : opening ∈ bs := by
  match bs with
  | [] => exact absurd rfl hb
  | opening :: bs => exact List.mem_cons_self
  | closing :: bs => cases h

end Bracket

/-! ## The pass over joined pieces -/

namespace Residue

open Segment.Division (bracketsOf)

variable {vars : Variables} {ps : List Piece} {test : Test} {p c : Piece}

theorem write_write (r : Residue) (x y : Text) : (r.write x).write y = r.write (x ++ y) := by
  obtain ⟨frames, left⟩ := r
  cases frames <;> simp [write]

theorem take_consPlain (r : Residue) (c : Char) (ps : List Piece) :
    take vars r (Piece.consPlain c ps) = take vars (r.write [c]) ps := by
  match ps with
  | [] => rfl
  | .token inner :: ps => rfl
  | .plain run :: ps =>
      have hw : r.write (c :: run) = (r.write [c]).write run := (write_write r [c] run).symm
      rw [Piece.consPlain, take_cons, take_cons, step, step, hw]

/-- Runs that are joined leave what they leave one by one. -/
theorem take_join (r : Residue) (ps : List Piece) : take vars r (Piece.join ps) = take vars r ps := by
  have hrun (run : Text) (r : Residue) (ps : List Piece) :
      take vars r (run.foldr Piece.consPlain ps) = take vars (r.write run) ps := by
    induction run generalizing r with
    | nil => rw [List.foldr_nil, write_nil]
    | cons c run ih => rw [List.foldr_cons, take_consPlain, ih, write_write, List.singleton_append]
  induction ps generalizing r with
  | nil => rfl
  | cons p ps ih =>
      cases p with
      | plain run => rw [Piece.join, hrun, ih, take_cons, step]
      | token inner => rw [Piece.join, take_cons, take_cons, ih]

theorem take_text (h : ∀ p ∈ ps, Bracket.ofPiece? p = none) (r : Residue) :
    take vars r ps = r.write (ps.flatMap Piece.source) := by
  induction ps generalizing r with
  | nil => exact (write_nil r).symm
  | cons p ps ih =>
      obtain ⟨hp, hps⟩ := List.forall_mem_cons.1 h
      rw [take_cons, step_text hp, ih hps, write_write, List.flatMap_cons]

/-- Of a block whose body has no brackets the body is left, or nothing. -/
theorem take_block (ht : Bracket.testOf? p = some test) (hc : Bracket.ofPiece? c = some .closing)
    (hb : ∀ p ∈ ps, Bracket.ofPiece? p = none) (r : Residue) :
    take vars r (p :: (ps ++ [c])) = take vars r (if test.holds vars then ps else []) := by
  obtain ⟨frames, left⟩ := r
  have hopen : step vars ⟨frames, left⟩ p = ⟨⟨p.source, test.holds vars, []⟩ :: frames, left⟩ := by
    cases p with
    | plain run => cases ht
    | token inner =>
        have ht : Directive.opening? inner = some test := ht
        simp only [step, Directive.isClosing_of_opening? ht, Bool.false_eq_true, if_false]
        rw [ht]
  have hbody : take vars ⟨⟨p.source, test.holds vars, []⟩ :: frames, left⟩ ps =
      ⟨⟨p.source, test.holds vars, ps.flatMap Piece.source⟩ :: frames, left⟩ := take_text hb _
  rw [take_cons, hopen, take_append, hbody, take_cons, step_closing hc]
  cases test.holds vars with
  | true => exact (take_text hb _).symm
  | false => exact write_nil _

end Residue

/-! ## Texts of blocks -/

namespace Piece

open Text

variable {p : Piece} {ps : List Piece}

theorem isBlockPart_consPlain {c : Char} (ho : c ≠ '\x7b') (hc : c ≠ '\x7d')
    (h : ∀ p ∈ ps, p.IsBlockPart) : ∀ p ∈ consPlain c ps, p.IsBlockPart := by
  have hone : IsBlockPart (plain [c]) := by simp [IsBlockPart, ho.symm, hc.symm]
  match ps with
  | [] => simpa [consPlain] using hone
  | token inner :: ps => exact List.forall_mem_cons.2 ⟨hone, h⟩
  | plain run :: ps =>
      obtain ⟨hr, hps⟩ := List.forall_mem_cons.1 h
      refine List.forall_mem_cons.2 ⟨?_, hps⟩
      simpa [IsBlockPart, ho.symm, hc.symm] using hr

theorem isBlockPart_join (h : ∀ p ∈ ps, p.IsBlockPart) : ∀ p ∈ join ps, p.IsBlockPart := by
  induction ps with
  | nil => exact h
  | cons p ps ih =>
      obtain ⟨hp, hps⟩ := List.forall_mem_cons.1 h
      cases p with
      | token inner => exact List.forall_mem_cons.2 ⟨hp, ih hps⟩
      | plain run =>
          rw [join]
          induction run with
          | nil => exact ih hps
          | cons c run ihr =>
              obtain ⟨ho, hc⟩ := hp
              rw [List.mem_cons, not_or] at ho hc
              have hr : IsBlockPart (plain run) := ⟨ho.2, hc.2⟩
              exact isBlockPart_consPlain (Ne.symm ho.1) (Ne.symm hc.1)
                (ihr (List.forall_mem_cons.2 ⟨hr, hps⟩) hr)

theorem IsBlockPart.not_opens (h : p.IsBlockPart) (hp : p.Proper) : ¬ Opens p.source := by
  cases p with
  | token inner => exact not_opens_token hp
  | plain run =>
      intro ho
      obtain ⟨a, b, rfl, -⟩ := ho.exists_eq
      exact h.1 (by simp)

/-- Some pieces of a text of blocks are the pieces of a text of blocks, but for runs that meet. -/
theorem ofText_of_subset {t : Text} (h : t.OnlyBlocks) (hs : ps ⊆ ofText t) :
    ofText (ps.flatMap source) = join ps ∧ Text.OnlyBlocks (ps.flatMap source) := by
  have hp : ∀ p ∈ ps, p.Proper := fun p hp => proper_of_mem_ofText (hs hp)
  have ha : Apart ps := List.pairwise_of_forall_mem_list fun p hpm q _ hpq =>
    (h p (hs hpm)).not_opens (hp p hpm) hpq.1
  have hj := ofText_flatMap_source hp ha
  refine ⟨hj, fun p hpm => ?_⟩
  rw [hj] at hpm
  exact isBlockPart_join (fun p hpm => h p (hs hpm)) p hpm

theorem bracketsOf_eq_insides (ps : List Piece) :
    Segment.Division.bracketsOf ps = (insides ps).filterMap Bracket.ofInside? := by
  rw [insides, List.filterMap_filterMap]
  rfl

theorem bracketsOf_join (ps : List Piece) :
    Segment.Division.bracketsOf (join ps) = Segment.Division.bracketsOf ps := by
  rw [bracketsOf_eq_insides, bracketsOf_eq_insides, insides_join]

end Piece

namespace Text

open Piece (ofText source)
open Segment.Division (bracketsOf)

variable {vars : Variables} {n : Nat} {t u v : Text}

/-! ## One step -/

theorem Rewrites.length_lt (h : Rewrites vars u v) : v.length < u.length := by
  cases h
  split <;> simp only [List.length_append, List.length_nil, Piece.source_token, List.length_cons] <;>
    omega

/-- The pieces of a text in which a block is replaced. -/
theorem Rewrites.pieces (h : Rewrites vars u v) : ∃ before p test body c after,
    ofText u = before ++ ((p :: (body ++ [c])) ++ after) ∧ Bracket.testOf? p = some test ∧
      Bracket.ofPiece? c = some .closing ∧ bracketsOf body = [] ∧
      v = (before ++ ((if test.holds vars then body else []) ++ after)).flatMap source := by
  cases h with
  | @block opener closer test before body after ho ht hc hcl hbody =>
      refine ⟨ofText before, .token opener, test, ofText body, .token closer, ofText after, ?_, ht, ?_,
        hbody, ?_⟩
      · rw [Piece.ofText_append_token ho, Piece.ofText_append_token hc]
        simp
      · simp [Bracket.ofPiece?, Piece.inside?, Bracket.ofInside?, hcl]
      · split <;> simp

/-- A step leaves a text that rewriting resolves, and what its blocks resolve to. -/
theorem Rewrites.resolve_eq (h : Rewrites vars u v) (hu : Resolvable n u) :
    Resolvable n v ∧ Text.resolve (some n) vars v = Text.resolve (some n) vars u := by
  obtain ⟨hb, hm, hn⟩ := hu
  obtain ⟨before, p, test, body, c, after, hp, ht, hc, hbody, rfl⟩ := h.pieces
  have hblock : (if test.holds vars then body else []).Sublist (p :: (body ++ [c])) := by
    cases test.holds vars
    · exact List.nil_sublist _
    · exact (List.sublist_append_left body [c]).cons p
  have hsub : before ++ ((if test.holds vars then body else []) ++ after) ⊆ ofText u :=
    hp ▸ (hblock.append_right after).append_left before |>.subset
  obtain ⟨hj, hv⟩ := Piece.ofText_of_subset hb hsub
  -- the brackets of the two texts differ by the pair of the block
  have hkept : bracketsOf (if test.holds vars then body else []) = [] := by
    cases test.holds vars
    · rfl
    · exact hbody
  have hbu : u.brackets = bracketsOf before ++ .opening :: .closing :: bracketsOf after := by
    rw [brackets, hp]
    simp [List.filterMap_append, Bracket.ofPiece?_of_testOf? ht, hc, hbody]
  have hbv : brackets ((before ++ ((if test.holds vars then body else []) ++ after)).flatMap source) =
      bracketsOf before ++ bracketsOf after := by
    rw [brackets, hj]
    refine (Piece.bracketsOf_join _).trans ?_
    rw [Bracket.bracketsOf_append, Bracket.bracketsOf_append, hkept, List.nil_append]
  have hnv : nesting ((before ++ ((if test.holds vars then body else []) ++ after)).flatMap source) ≤
      n := by
    rw [nesting, hbu] at hn
    rw [nesting, hbv]
    exact Nat.le_trans (Bracket.depth_without_pair 0 _ _) hn
  refine ⟨⟨hv, ?_, hnv⟩, ?_⟩
  · rw [hbv, ← Bracket.matched_without_pair, ← hbu]
    exact hm
  · have hallows {t : Text} (h : t.nesting ≤ n) : Segment.Allows (some n) t.nesting :=
      fun m hm => Option.some.inj hm ▸ h
    rw [Segment.resolve_of_nesting (hallows hnv), Segment.resolve_of_nesting (hallows hn), hj, hp,
      Residue.take_join]
    simp only [Residue.take_append]
    rw [Residue.take_block ht hc (List.filterMap_eq_nil_iff.1 hbody)]

/-- A text with brackets, if they match, has a block in whose body none stands. -/
theorem exists_rewrites (hu : Resolvable n u) (hne : u.brackets ≠ []) (vars : Variables) :
    ∃ v, Rewrites vars u v := by
  obtain ⟨hb, hm, -⟩ := hu
  obtain ⟨as, cs, he⟩ := Bracket.exists_innermost hm (Bracket.opening_mem_of_matched hm hne)
  -- the pieces with the two brackets, and those between that are no brackets
  obtain ⟨before, rest, hp, -, hrest⟩ := List.filterMap_eq_append_iff.1 he
  obtain ⟨front, p, behind, rfl, -, hop, hbehind⟩ := List.filterMap_eq_cons_iff.1 hrest
  obtain ⟨body, c, after, rfl, hbody, hcl, -⟩ := List.filterMap_eq_cons_iff.1 hbehind
  obtain ⟨opener, test, rfl, -, ht⟩ := Bracket.of_opening hop
  obtain ⟨closer, rfl, hc⟩ := Bracket.of_closing hcl
  have hproper {q : Piece} (hq : q ∈ front ++ .token opener :: (body ++ .token closer :: after)) :
      q.Proper := Piece.proper_of_mem_ofText (hp ▸ List.mem_append_right before hq)
  have hsub : body ⊆ ofText u := by
    intro q hq
    rw [hp]
    simp [hq]
  have hnone : brackets (body.flatMap source) = [] := by
    rw [brackets, (Piece.ofText_of_subset hb hsub).1]
    exact (Piece.bracketsOf_join body).trans (List.filterMap_eq_nil_iff.2 hbody)
  have hblock : Rewrites vars _ _ := .block ((before ++ front).flatMap source)
    (body.flatMap source) (after.flatMap source) (hproper (by simp)) ht (hproper (by simp)) hc hnone
  have hu : u = (before ++ front).flatMap source ++ ((Piece.token opener).source ++
      (body.flatMap source ++ ((Piece.token closer).source ++ after.flatMap source))) := by
    rw [← Piece.source_ofText u, hp]
    simp
  exact ⟨_, hu ▸ hblock⟩

theorem not_rewrites_of_brackets (h : u.brackets = []) : ¬ Rewrites vars u v := by
  intro hr
  obtain ⟨before, p, test, body, c, after, hp, ht, -⟩ := hr.pieces
  have hnone := List.filterMap_eq_nil_iff.1 h p (by simp [hp])
  rw [Bracket.ofPiece?_of_testOf? ht] at hnone
  cases hnone

/-- A text without brackets is what its blocks resolve to. -/
theorem resolve_of_brackets (h : u.brackets = []) (vars : Variables) :
    Text.resolve (some n) vars u = u := by
  have hn : Segment.Allows (some n) u.nesting := by
    rw [nesting, h]
    exact fun m _ => Nat.zero_le m
  rw [Segment.resolve_of_nesting hn, Residue.take_text (List.filterMap_eq_nil_iff.1 h),
    Piece.source_ofText]
  exact List.append_nil u

/-! ## A whole run -/

/-- Every run of steps keeps what the blocks resolve to. -/
theorem resolve_eq_of_rewrites (h : ReflTransGen (Rewrites vars) t u) (ht : Resolvable n t) :
    Resolvable n u ∧ Text.resolve (some n) vars u = Text.resolve (some n) vars t := by
  induction h with
  | refl => exact ⟨ht, rfl⟩
  | tail _ hs ih =>
      obtain ⟨hu, he⟩ := ih
      obtain ⟨hv, hse⟩ := hs.resolve_eq hu
      exact ⟨hv, hse.trans he⟩

theorem wellFounded_rewrites (vars : Variables) : WellFounded fun v u => Rewrites vars u v :=
  Subrelation.wf (fun h => h.length_lt) (measure List.length).wf

/-- A text to which no step applies has no blocks. -/
theorem brackets_of_not_rewrites (hu : Resolvable n u) (h : ∀ v, ¬ Rewrites vars u v) :
    u.brackets = [] :=
  Decidable.byContradiction fun hne =>
    have ⟨v, hv⟩ := exists_rewrites hu hne vars
    h v hv

/-- Rewriting comes to what the blocks resolve to, and there it ends. -/
theorem rewrites_resolve (hu : Resolvable n u) (vars : Variables) :
    ReflTransGen (Rewrites vars) u (Text.resolve (some n) vars u) ∧
      (Text.resolve (some n) vars u).brackets = [] := by
  induction u using (wellFounded_rewrites vars).induction with
  | _ u ih =>
      by_cases hb : u.brackets = []
      · rw [resolve_of_brackets hb]
        exact ⟨.refl, hb⟩
      · obtain ⟨v, hv⟩ := exists_rewrites hu hb vars
        obtain ⟨hr, he⟩ := hv.resolve_eq hu
        obtain ⟨hsteps, hnone⟩ := ih v hv hr
        exact ⟨.head hv (he ▸ hsteps), he ▸ hnone⟩

theorem resolveStrict_of_resolvable (ht : Resolvable n t) (vars : Variables) :
    Text.resolveStrict (some n) vars t = .ok (Text.resolve (some n) vars t) := by
  obtain ⟨ss, hs⟩ := Segment.isOk_parse_some_iff.2 ⟨ht.matched, ht.nesting⟩
  rw [Text.resolveStrict, Text.resolve, Segment.parseLenient_of_parse hs, hs]
  rfl

/-- Replacing innermost blocks in any order ends, and whatever order was taken it can go on to what
the blocks resolve to and ends in nothing else. Resolving strictly gives the same. -/
theorem rewriting_ends_in_resolve (hb : t.OnlyBlocks) (hm : Bracket.matched 0 t.brackets = true)
    (hn : t.nesting ≤ n) (vars : Variables) :
    (WellFounded fun v u => Rewrites vars u v) ∧
    (∀ u, ReflTransGen (Rewrites vars) t u →
      ReflTransGen (Rewrites vars) u (Text.resolve (some n) vars t) ∧
        ((∀ v, ¬ Rewrites vars u v) ↔ u = Text.resolve (some n) vars t)) ∧
    Text.resolveStrict (some n) vars t = .ok (Text.resolve (some n) vars t) := by
  have ht : Resolvable n t := ⟨hb, hm, hn⟩
  refine ⟨wellFounded_rewrites vars, fun u hu => ?_, resolveStrict_of_resolvable ht vars⟩
  obtain ⟨hr, he⟩ := resolve_eq_of_rewrites hu ht
  obtain ⟨hsteps, hnone⟩ := rewrites_resolve hr vars
  rw [he] at hsteps hnone
  refine ⟨hsteps, fun hend => ?_, ?_⟩
  · rw [← he, resolve_of_brackets (brackets_of_not_rewrites hr hend)]
  · rintro rfl v
    exact not_rewrites_of_brackets hnone

theorem nested_rewriting_ends :
    let vars : Variables := SortedMap.empty.insert "a" (.bool true)
    let t : Text := "0\x7bif:a\x7d1\x7bif:b\x7d2\x7b/if\x7d3\x7b/if\x7d".toList
    t.OnlyBlocks ∧ Bracket.matched 0 t.brackets = true ∧ t.nesting ≤ 2 ∧
      ∀ u, ReflTransGen (Rewrites vars) t u →
        ((∀ v, ¬ Rewrites vars u v) ↔ u = "013".toList) := by
  intro vars t
  have hb : t.OnlyBlocks := by decide
  have hm : Bracket.matched 0 t.brackets = true := by decide
  have hn : t.nesting ≤ 2 := by decide
  have hr : Text.resolve (some 2) vars t = "013".toList := by decide +kernel
  refine ⟨hb, hm, hn, fun u hu => ?_⟩
  rw [← hr]
  exact ((rewriting_ends_in_resolve hb hm hn vars).2.1 u hu).2

end Text
end Gamebook
