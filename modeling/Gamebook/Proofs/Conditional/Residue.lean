import Gamebook.Proofs.Conditional.Bracket
import Gamebook.Proofs.Conditional.Sublist

/-!
# Resolving in one pass

Where a text is nested within the limit, resolving its blocks is one pass over its pieces that keeps,
for each open block, what is left of its body so far. Where the brackets of a body match, the pass
comes back to the block that it was in, so nothing is left of a block whose test fails, whatever its
body.
-/

namespace Gamebook

/-- An open block: its opening token, whether its test holds, and what is left of its body so far. -/
structure Residue.Frame where
  opener : Text
  holds : Bool
  left : Text

/-- What resolving leaves of the pieces so far: for each open block, innermost first, and outside all
blocks. -/
structure Residue where
  frames : List Residue.Frame
  left : Text

namespace Residue

/-- Adds to what is left in the innermost open block, or outside all blocks. -/
def write (x : Text) (r : Residue) : Residue :=
  match r.frames with
  | [] => { r with left := r.left ++ x }
  | f :: fs => { r with frames := { f with left := f.left ++ x } :: fs }

/-- Takes one piece. -/
def step (vars : Variables) (r : Residue) (p : Piece) : Residue :=
  match p with
  | .plain run => r.write run
  | .token inner =>
    if Directive.isClosing inner then
      match r.frames with
      | [] => r.write p.source
      | f :: fs => write (if f.holds then f.left else []) { r with frames := fs }
    else
      match Directive.opening? inner with
      | none => r.write p.source
      | some test => { r with frames := ⟨p.source, test.holds vars, []⟩ :: r.frames }

/-- All that is left when the blocks that are still open become text. -/
def all (r : Residue) : Text := r.left ++ r.frames.reverse.flatMap fun f => f.opener ++ f.left

/-- The pass over pieces. -/
def take (vars : Variables) (r : Residue) (ps : List Piece) : Residue := ps.foldl (step vars) r

variable {vars : Variables} {r : Residue} {p : Piece} {ps qs : List Piece} {fs rest : List Frame}
  {f : Frame} {left : Text}

theorem take_append : take vars r (ps ++ qs) = take vars (take vars r ps) qs := List.foldl_append

theorem take_cons : take vars r (p :: ps) = take vars (r.step vars p) ps := rfl

theorem write_nil (r : Residue) : r.write [] = r := by
  obtain ⟨frames, left⟩ := r
  cases frames <;> simp [write]

/-! ## Matched brackets -/

theorem step_text (h : Bracket.ofPiece? p = none) : r.step vars p = r.write p.source := by
  cases p with
  | plain run => rfl
  | token inner =>
      obtain ⟨hc, ho⟩ := Bracket.of_none h
      simp only [step, hc, ho]
      rfl

theorem step_opening (h : Bracket.ofPiece? p = some .opening) (vars : Variables) :
    ∃ g, ∀ r : Residue, r.step vars p = { r with frames := g :: r.frames } := by
  obtain ⟨inner, test, rfl, hc, ht⟩ := Bracket.of_opening h
  refine ⟨⟨(Piece.token inner).source, test.holds vars, []⟩, fun r => ?_⟩
  simp only [step, hc, ht]
  rfl

theorem step_closing (h : Bracket.ofPiece? p = some .closing) :
    step vars ⟨f :: fs, left⟩ p = write (if f.holds then f.left else []) ⟨fs, left⟩ := by
  obtain ⟨inner, rfl, hc⟩ := Bracket.of_closing h
  simp only [step, hc, if_true]

/-- What is written goes to the innermost open block alone. -/
theorem write_frames (x : Text) (fs : List Frame) (f : Frame) (rest : List Frame) (left : Text) :
    ∃ gs y, gs.length = fs.length ∧
      write x ⟨fs ++ f :: rest, left⟩ = ⟨gs ++ { f with left := f.left ++ y } :: rest, left⟩ := by
  cases fs with
  | nil => exact ⟨[], x, rfl, rfl⟩
  | cons g gs => exact ⟨{ g with left := g.left ++ x } :: gs, [], rfl, by simp [write]⟩

/-- Pieces whose brackets match, those of the frames in front included, leave only text behind in the
block that they stand in. -/
theorem take_matched (h : Bracket.matched fs.length (ps.filterMap Bracket.ofPiece?) = true)
    (vars : Variables) (f : Frame) (rest : List Frame) (left : Text) : ∃ y, take vars ⟨fs ++ f :: rest, left⟩ ps =
      ⟨{ f with left := f.left ++ y } :: rest, left⟩ := by
  induction ps generalizing fs f with
  | nil =>
      have hn : fs.length = 0 := beq_iff_eq.1 h
      exact ⟨[], by simp [take, List.length_eq_zero_iff.1 hn]⟩
  | cons p ps ih =>
      rw [List.filterMap_cons] at h
      -- what a piece writes goes to the block or to one of the frames in front of it
      have hwrite {x : Text} {fs : List Frame} (hs : step vars ⟨fs ++ f :: rest, left⟩ p =
            write x ⟨fs ++ f :: rest, left⟩)
          (hm : Bracket.matched fs.length (ps.filterMap Bracket.ofPiece?) = true) :
          ∃ y, take vars ⟨fs ++ f :: rest, left⟩ (p :: ps) =
            ⟨{ f with left := f.left ++ y } :: rest, left⟩ := by
        obtain ⟨gs, y, hl, hw⟩ := write_frames x fs f rest left
        rw [take_cons, hs, hw]
        obtain ⟨z, hz⟩ := ih (hl ▸ hm) { f with left := f.left ++ y }
        exact ⟨y ++ z, by rw [hz, List.append_assoc]⟩
      cases hb : Bracket.ofPiece? p with
      | none =>
          rw [hb] at h
          exact hwrite (step_text hb) h
      | some b =>
          rw [hb] at h
          cases b with
          | opening =>
              obtain ⟨g, hg⟩ := step_opening hb vars
              rw [take_cons, hg]
              rw [← List.cons_append]
              exact ih h f
          | closing =>
              cases fs with
              | nil => cases h
              | cons g fs =>
                  rw [take_cons, List.cons_append, step_closing hb]
                  obtain ⟨gs, y, hl, hw⟩ :=
                    write_frames (if g.holds then g.left else []) fs f rest left
                  obtain ⟨z, hz⟩ := ih (show Bracket.matched gs.length _ = true from hl ▸ h)
                    { f with left := f.left ++ y }
                  exact ⟨y ++ z, by rw [hw, hz, List.append_assoc]⟩

/-- Nothing is left of a block whose test fails. -/
theorem take_hidden {opener closer : Text} {test : Test} (ho : Directive.opening? opener = some test)
    (hoc : Directive.isClosing opener = false) (hc : Directive.isClosing closer = true)
    (ht : test.holds vars = false)
    (hm : Bracket.matched 0 (ps.filterMap Bracket.ofPiece?) = true) (r : Residue) :
    take vars r (.token opener :: ps ++ [.token closer]) = r := by
  obtain ⟨frames, left⟩ := r
  have hopen : step vars ⟨frames, left⟩ (.token opener) =
      ⟨[] ++ ⟨(Piece.token opener).source, false, []⟩ :: frames, left⟩ := by
    simp only [step, hoc, ho, ht, Bool.false_eq_true, if_false, List.nil_append]
  have hclose : Bracket.ofPiece? (.token closer) = some .closing := by
    simp [Bracket.ofPiece?, Piece.inside?, Bracket.ofInside?, hc]
  rw [List.cons_append, take_cons, take_append, hopen]
  obtain ⟨y, hy⟩ := take_matched (show Bracket.matched [].length _ = true from hm) vars
    ⟨(Piece.token opener).source, false, []⟩ frames left
  rw [hy, take_cons, step_closing hclose]
  exact write_nil _

end Residue

/-! ## Division and the pass -/

namespace Segment

variable {vars : Variables} {limit : Option Nat} {whole : Text} {start : Nat} {p : Piece}
  {ps : List Piece} {d d' : Division} {t : Text}

namespace Division

/-- What resolving leaves of a division so far. -/
def residue (vars : Variables) (d : Division) : Residue :=
  ⟨d.opened.map fun o => ⟨o.opener, o.test.holds vars, resolveParts vars o.parts⟩,
    resolveParts vars d.parts⟩

theorem residue_modifyParts {f : List Segment → List Segment} {x : Text}
    (hf : ∀ parts, resolveParts vars (f parts) = resolveParts vars parts ++ x) (d : Division) :
    (d.modifyParts f).residue vars = (d.residue vars).write x := by
  obtain ⟨opened, parts⟩ := d
  cases opened with
  | nil => simp [modifyParts, residue, Residue.write, hf]
  | cons o os => simp [modifyParts, residue, Residue.write, hf]

theorem residue_step (h : d.step false limit whole start p = .ok d') :
    d'.residue vars = (d.residue vars).step vars p := by
  rcases step_cases h with ⟨rfl, hp⟩ | ⟨inner, o, os, rfl, hc, ho, rfl⟩ |
    ⟨inner, test, rfl, hc, ht, rfl⟩
  · rw [residue_modifyParts (resolveParts_addText p.source)]
    cases p with
    | plain run => rfl
    | token inner =>
        have hp := hp inner rfl
        split at hp
        · next hc => simp only [Residue.step, hc, if_true, residue, hp, List.map_nil]
        · next hc => simp only [Residue.step, if_neg hc, hp]
  · rw [residue_modifyParts (resolveParts_add _), resolve]
    simp only [Residue.step, hc, if_true, residue, ho, List.map_cons]
    rfl
  · simp only [Residue.step, hc, Bool.false_eq_true, if_false, ht]
    rfl

theorem residue_takeAll (h : takeAll false limit whole start ps d = .ok d') :
    d'.residue vars = (d.residue vars).take vars ps := by
  induction ps generalizing start d with
  | nil =>
      cases h
      rfl
  | cons p ps ih =>
      obtain ⟨next, hs, h⟩ := takeAll_cons_eq_ok h
      rw [ih h, residue_step hs, Residue.take_cons]

/-- A block that becomes text behind its opening token. -/
theorem all_merge (o : Opened) (os : List Opened) (parts : List Segment)
    {f : List Segment → List Segment}
    (hf : ∀ qs, f qs = o.parts.reverse.foldl (fun qs s => add s qs) (addText o.opener qs)) :
    ((Division.modifyParts f ⟨os, parts⟩).residue vars).all =
      (residue vars ⟨o :: os, parts⟩).all := by
  have hm : (Division.modifyParts f ⟨os, parts⟩).residue vars =
      (residue vars ⟨os, parts⟩).write (o.opener ++ resolveParts vars o.parts) :=
    residue_modifyParts (fun qs => by
      rw [hf, resolveParts_foldl_add, resolveParts_addText, List.append_assoc]
      rfl) _
  rw [hm]
  cases os with
  | nil => simp [residue, Residue.write, Residue.all]
  | cons o' os => simp [residue, Residue.write, Residue.all]

theorem resolveParts_abandon (parts : List Segment) (os : List Opened) :
    resolveParts vars (abandon parts os) = (residue vars ⟨os, parts⟩).all := by
  match os with
  | [] =>
      rw [abandon]
      simp [residue, Residue.all]
  | [o] =>
      rw [abandon, ← all_merge o [] parts fun _ => rfl]
      simp [modifyParts, residue, Residue.all]
  | o :: o' :: os =>
      rw [abandon, resolveParts_abandon, ← all_merge o (o' :: os) parts fun _ => rfl]
      rfl
termination_by os.length

end Division

theorem divide_lenient_eq (limit : Option Nat) (t : Text) : divide false limit t =
    (Division.takeAll false limit t 0 (Piece.ofText t) ⟨[], []⟩).map fun d =>
      (Division.abandon d.parts d.opened).reverse := by
  rw [divide_lenient]
  cases Division.takeAll false limit t 0 (Piece.ofText t) ⟨[], []⟩ with
  | error e => rfl
  | ok d =>
      obtain ⟨opened, parts⟩ := d
      cases opened with
      | nil => simp [Except.bind, Except.map, Division.abandon]
      | cons o os => rfl

/-- Resolving a text that is nested within the limit is one pass over its pieces. -/
theorem resolve_of_nesting (h : Allows limit t.nesting) :
    Text.resolve limit vars t = (Residue.take vars ⟨[], []⟩ (Piece.ofText t)).all := by
  have h₀ : Allows limit (Division.mk [] []).opened.length := fun m _ => Nat.zero_le m
  obtain ⟨d, hd⟩ := (Division.takeAll_lenient_iff h₀ t 0 (Piece.ofText t)).2 h
  rw [Text.resolve, parseLenient, divide_lenient_eq, hd]
  refine (Division.resolveParts_abandon d.parts d.opened).trans (congrArg Residue.all ?_)
  exact Division.residue_takeAll hd

end Segment
end Gamebook
