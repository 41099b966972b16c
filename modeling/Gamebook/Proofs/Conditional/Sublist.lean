import Gamebook.Proofs.Conditional.LineEnd

/-!
# What resolving leaves of the pieces

Resolving conditional blocks drops pieces of a text, the tokens of the blocks and the bodies whose
test fails, and leaves the others in their order.
-/

namespace Gamebook.Segment

variable {vars : Variables} {strict : Bool} {limit : Option Nat} {whole : Text} {start : Nat}
  {p : Piece} {ps qs : List Piece} {s t : Text} {d d' : Division}

/-- Whether a text is what is left of pieces when some of them are dropped. -/
def LeftOf (ps : List Piece) (t : Text) : Prop :=
  ∃ qs : List Piece, qs.Sublist ps ∧ qs.flatMap Piece.source = t

theorem leftOf_nil (ps : List Piece) : LeftOf ps [] := ⟨[], List.nil_sublist ps, rfl⟩

theorem leftOf_source (p : Piece) : LeftOf [p] p.source := ⟨[p], List.Sublist.refl _, by simp⟩

theorem LeftOf.append (hs : LeftOf ps s) (ht : LeftOf qs t) : LeftOf (ps ++ qs) (s ++ t) := by
  obtain ⟨xs, hxs, rfl⟩ := hs
  obtain ⟨ys, hys, rfl⟩ := ht
  exact ⟨xs ++ ys, hxs.append hys, List.flatMap_append⟩

/-- What resolving makes of parts that are held newest first. -/
def resolveParts (vars : Variables) (parts : List Segment) : Text := resolveAll vars parts.reverse

theorem resolveParts_addText (run : Text) (parts : List Segment) :
    resolveParts vars (addText run parts) = resolveParts vars parts ++ run :=
  resolveAll_addText vars run parts

theorem resolveParts_add (s : Segment) (parts : List Segment) :
    resolveParts vars (add s parts) = resolveParts vars parts ++ resolve vars s := by
  cases s with
  | text run => exact resolveParts_addText run parts
  | block => simp [add, resolveParts, resolveAll_append, resolveAll]

theorem resolveParts_foldl_add (ss parts : List Segment) :
    resolveParts vars (ss.foldl (fun ps s => add s ps) parts) =
      resolveParts vars parts ++ resolveAll vars ss := by
  induction ss generalizing parts with
  | nil => simp [resolveAll]
  | cons s ss ih => rw [List.foldl_cons, ih, resolveParts_add, List.append_assoc]; rfl

namespace Division

/-- Whether what resolving makes of the parts so far is left of the pieces that were taken: for each
open block, of those after its opening token. -/
def LeftOf (vars : Variables) (parts : List Segment) : List Opened → List Piece → Prop
  | [], ps => Segment.LeftOf ps (resolveParts vars parts)
  | o :: os, ps => ∃ before p after, ps = before ++ p :: after ∧ p.source = o.opener ∧
      Segment.LeftOf after (resolveParts vars o.parts) ∧ LeftOf vars parts os before

/-- What is added to the innermost parts is left of the pieces that it was read from. -/
theorem LeftOf.modifyParts {f : List Segment → List Segment} {x : Text} {more : List Piece}
    (hf : ∀ parts, resolveParts vars (f parts) = resolveParts vars parts ++ x)
    (hx : Segment.LeftOf more x) (h : LeftOf vars d.parts d.opened ps) :
    LeftOf vars (d.modifyParts f).parts (d.modifyParts f).opened (ps ++ more) := by
  obtain ⟨opened, parts⟩ := d
  cases opened with
  | nil =>
      simp only [Division.modifyParts, LeftOf, hf] at h ⊢
      exact h.append hx
  | cons o os =>
      obtain ⟨before, p, after, rfl, hp, ha, hb⟩ := h
      refine ⟨before, p, after ++ more, by simp, hp, ?_, hb⟩
      rw [hf]
      exact ha.append hx

theorem LeftOf.addSource (h : LeftOf vars d.parts d.opened ps) (p : Piece) :
    LeftOf vars (d.modifyParts (addText p.source)).parts
      (d.modifyParts (addText p.source)).opened (ps ++ [p]) :=
  h.modifyParts (resolveParts_addText p.source) (leftOf_source p)

theorem LeftOf.step (h : LeftOf vars d.parts d.opened ps)
    (hd : d.step strict limit whole start p = .ok d') :
    LeftOf vars d'.parts d'.opened (ps ++ [p]) := by
  rcases step_cases hd with ⟨rfl, -⟩ | ⟨-, o, os, -, -, ho, rfl⟩ | ⟨inner, test, rfl, -, -, rfl⟩
  · exact h.addSource p
  · -- the block that is closed is left of its pieces, whether its body is kept or not
    rw [ho] at h
    obtain ⟨before, q, after, rfl, -, ha, hb⟩ := h
    rw [List.append_assoc]
    refine LeftOf.modifyParts (d := { d with opened := os }) (resolveParts_add _) ?_ hb
    rw [resolve]
    split
    · have hall := (leftOf_nil [q]).append (ha.append (leftOf_nil [p]))
      simpa [resolveParts] using hall
    · exact leftOf_nil _
  · exact ⟨ps, .token inner, [], rfl, rfl, leftOf_nil [], h⟩

theorem LeftOf.takeAll (h : LeftOf vars d.parts d.opened ps)
    (hd : takeAll strict limit whole start qs d = .ok d') :
    LeftOf vars d'.parts d'.opened (ps ++ qs) := by
  induction qs generalizing start d ps with
  | nil =>
      cases hd
      simpa using h
  | cons q qs ih =>
      obtain ⟨next, hs, hd⟩ := takeAll_cons_eq_ok hd
      simpa using ih (h.step hs) hd

/-- An open block whose parts become text behind its opening token. -/
theorem LeftOf.merge {parts : List Segment} {o : Opened} {os : List Opened}
    (h : LeftOf vars parts (o :: os) ps) {f : List Segment → List Segment}
    (hf : ∀ qs, f qs = o.parts.reverse.foldl (fun qs s => add s qs) (addText o.opener qs)) :
    LeftOf vars (Division.modifyParts f ⟨os, parts⟩).parts
      (Division.modifyParts f ⟨os, parts⟩).opened ps := by
  obtain ⟨before, p, after, rfl, hp, ha, hb⟩ := h
  refine LeftOf.modifyParts (d := ⟨os, parts⟩) (x := o.opener ++ resolveParts vars o.parts)
    (fun qs => ?_) ?_ hb
  · rw [hf, resolveParts_foldl_add, resolveParts_addText, List.append_assoc]
    rfl
  · exact hp ▸ (leftOf_source p).append ha

/-- Blocks that stay open are text, with their opening tokens. -/
theorem LeftOf.abandon {parts : List Segment} {os : List Opened} (h : LeftOf vars parts os ps) :
    Segment.LeftOf ps (resolveParts vars (abandon parts os)) := by
  match os with
  | [] => exact (Division.abandon.eq_1 parts).symm ▸ h
  | [o] =>
      rw [Division.abandon]
      exact h.merge fun _ => rfl
  | o :: o' :: os =>
      rw [Division.abandon]
      exact LeftOf.abandon (h.merge fun _ => rfl)
termination_by os.length

end Division

/-- Resolving the blocks of a text leaves some of its pieces, in their order. -/
theorem leftOf_resolve (limit : Option Nat) (vars : Variables) (t : Text) :
    LeftOf (Piece.ofText t) (Text.resolve limit vars t) := by
  rw [Text.resolve, parseLenient, divide_lenient]
  cases ht : Division.takeAll false limit t 0 (Piece.ofText t) ⟨[], []⟩ with
  | error e => exact ⟨Piece.ofText t, List.Sublist.refl _, by simp [resolveAll, resolve, Except.bind]⟩
  | ok d =>
      have h : Division.LeftOf vars d.parts d.opened ([] ++ Piece.ofText t) :=
        Division.LeftOf.takeAll (d := ⟨[], []⟩) (leftOf_nil []) ht
      obtain ⟨opened, parts⟩ := d
      cases opened with
      | nil => exact h
      | cons o os => exact h.abandon

end Gamebook.Segment
