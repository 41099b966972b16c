import Gamebook.Conditional.Segment
import Gamebook.Proofs.Text.LineEnd

/-!
# Blocks and the end of a text

A line feed behind a text belongs to the block that is open at its end, or to what is outside all
blocks, and is text there. Whichever blocks are dropped, it stays: a block that is still open at the
end is none.
-/

namespace Gamebook

theorem Text.byteSlice_append (t s : Text) (start : Nat) {stop : Nat} (h : stop ≤ t.byteLength) :
    byteSlice (t ++ s) start stop = byteSlice t start stop := by
  induction t generalizing start stop with
  | nil =>
      cases Nat.le_zero.1 h
      cases s <;> simp [byteSlice]
  | cons c r ih =>
      rw [byteLength_cons] at h
      simp only [List.cons_append, byteSlice]
      rw [ih (start - c.utf8Size) (by omega), ih 0 (by omega)]

namespace Segment

/-! ## Parts -/

theorem addText_addText {run more : Text} (h : more ≠ []) (ps : List Segment) :
    addText more (addText run ps) = addText (run ++ more) ps := by
  by_cases hr : run = []
  · simp [hr, addText]
  · have ha : run ++ more ≠ [] := by simp [hr]
    cases ps with
    | nil => simp [addText, hr, h]
    | cons p ps => cases p <;> simp [addText, hr, h]

/-- Parts that are added one by one end with the line feed that they end with. -/
theorem foldl_add_lineEnd (ps acc : List Segment) :
    (addText ['\n'] ps).reverse.foldl (fun ps s => add s ps) acc =
      addText ['\n'] (ps.reverse.foldl (fun ps s => add s ps) acc) := by
  have hn : ['\n'] ≠ [] := List.cons_ne_nil _ _
  cases ps with
  | nil => rfl
  | cons p ps =>
      cases p with
      | text before =>
          have ha : addText ['\n'] (text before :: ps) = text (before ++ ['\n']) :: ps := rfl
          simp only [ha, List.reverse_cons, List.foldl_append, List.foldl_cons, List.foldl_nil, add,
            addText_addText hn]
      | block =>
          simp only [addText, if_neg hn, List.reverse_cons, List.foldl_append, List.foldl_cons,
            List.foldl_nil, add]

theorem resolveAll_append (vars : Variables) (xs ys : List Segment) :
    resolveAll vars (xs ++ ys) = resolveAll vars xs ++ resolveAll vars ys := by
  induction xs with
  | nil => rfl
  | cons x xs ih => rw [List.cons_append, resolveAll, resolveAll, ih, List.append_assoc]

theorem resolveAll_addText (vars : Variables) (run : Text) (ps : List Segment) :
    resolveAll vars (addText run ps).reverse = resolveAll vars ps.reverse ++ run := by
  unfold addText
  split
  · next h => simp [h]
  · split
    · simp [resolveAll_append, resolveAll, resolve]
    · simp [resolveAll_append, resolveAll, resolve]

/-! ## Division -/

namespace Division

theorem modifyParts_modifyParts (f g : List Segment → List Segment) (d : Division) :
    (d.modifyParts f).modifyParts g = d.modifyParts fun ps => g (f ps) := by
  obtain ⟨opened, parts⟩ := d
  cases opened <;> rfl

/-- A piece becomes text, a closing token where no block is open among them, or it closes the innermost
block, or it opens one. -/
theorem step_cases {strict : Bool} {limit : Option Nat} {whole : Text} {start : Nat} {p : Piece}
    {d d' : Division} (h : d.step strict limit whole start p = .ok d') :
    (d' = d.modifyParts (addText p.source) ∧ ∀ inner, p = .token inner →
      if Directive.isClosing inner then d.opened = [] else Directive.opening? inner = none) ∨
    (∃ inner o os, p = .token inner ∧ Directive.isClosing inner = true ∧ d.opened = o :: os ∧
      d' = modifyParts (add (block o.opener o.test o.start o.parts.reverse
        (Text.byteSlice whole (o.start + o.opener.byteLength) start) p.source))
        { d with opened := os }) ∨
    ∃ inner test, p = .token inner ∧ Directive.isClosing inner = false ∧
      Directive.opening? inner = some test ∧
      d' = { d with opened := ⟨p.source, test, start, []⟩ :: d.opened } := by
  cases p with
  | plain run =>
      cases h
      exact .inl ⟨rfl, nofun⟩
  | token inner =>
      simp only [step] at h
      split at h
      · next hc =>
        split at h
        · next o os ho =>
          cases h
          exact .inr (.inl ⟨inner, o, os, rfl, hc, ho, rfl⟩)
        · next ho =>
          split at h
          · cases h
          · cases h
            refine .inl ⟨rfl, fun _ he => ?_⟩
            cases he
            rw [if_pos hc]
            exact ho
      · next hc =>
        split at h
        · next ht =>
          cases h
          refine .inl ⟨rfl, fun _ he => ?_⟩
          cases he
          rw [if_neg hc]
          exact ht
        · next test ht =>
          have hf : Directive.isClosing inner = false := Bool.eq_false_iff.2 hc
          split at h
          · split at h
            · cases h
            · cases h
              exact .inr (.inr ⟨inner, test, rfl, hf, ht, rfl⟩)
          · cases h
            exact .inr (.inr ⟨inner, test, rfl, hf, ht, rfl⟩)

/-- Only what stands before a token matters for the written body of the block that it closes. -/
theorem step_append {strict : Bool} {limit : Option Nat} {whole : Text} {start : Nat}
    (h : start ≤ whole.byteLength) (s : Text) (d : Division) (p : Piece) :
    d.step strict limit (whole ++ s) start p = d.step strict limit whole start p := by
  cases p with
  | plain run => rfl
  | token inner =>
      simp only [step]
      split
      · split
        · rw [Text.byteSlice_append _ _ _ h]
        · rfl
      · rfl

/-- Takes pieces in turn, the first of which starts at byte `start`. -/
def takeAll (strict : Bool) (limit : Option Nat) (whole : Text) (start : Nat) (ps : List Piece)
    (d : Division) : Except Unbalanced Division :=
  (Piece.locate start ps).foldlM
    (fun (d : Division) (start, p) => d.step strict limit whole start p) d

theorem takeAll_cons (strict : Bool) (limit : Option Nat) (whole : Text) (start : Nat) (p : Piece)
    (ps : List Piece) (d : Division) :
    takeAll strict limit whole start (p :: ps) d =
      (d.step strict limit whole start p).bind
        (takeAll strict limit whole (start + p.source.byteLength) ps) := rfl

theorem takeAll_cons_eq_ok {strict : Bool} {limit : Option Nat} {whole : Text} {start : Nat}
    {p : Piece} {ps : List Piece} {d d' : Division}
    (h : takeAll strict limit whole start (p :: ps) d = .ok d') :
    ∃ next, d.step strict limit whole start p = .ok next ∧
      takeAll strict limit whole (start + p.source.byteLength) ps next = .ok d' := by
  rw [takeAll_cons] at h
  cases hs : d.step strict limit whole start p with
  | error e =>
      rw [hs] at h
      cases h
  | ok next =>
      rw [hs] at h
      exact ⟨next, rfl, h⟩

theorem takeAll_lineEnd {strict : Bool} {limit : Option Nat} {whole : Text} {ps : List Piece}
    {start : Nat} (h : start + Text.byteLength (ps.flatMap Piece.source) ≤ whole.byteLength)
    (d : Division) :
    takeAll strict limit (whole ++ ['\n']) start (Piece.addLineEnd ps) d =
      (takeAll strict limit whole start ps d).map (modifyParts (addText ['\n'])) := by
  induction ps generalizing start d with
  | nil => rfl
  | cons p ps ih =>
      have hs : start ≤ whole.byteLength := by omega
      rw [List.flatMap_cons, Text.byteLength_append] at h
      have hcons : takeAll strict limit (whole ++ ['\n']) start (p :: Piece.addLineEnd ps) d =
          (takeAll strict limit whole start (p :: ps) d).map (modifyParts (addText ['\n'])) := by
        rw [takeAll_cons, takeAll_cons, step_append hs]
        cases d.step strict limit whole start p with
        | error e => rfl
        | ok next => exact ih (by omega) next
      cases ps with
      | nil =>
          cases p with
          | plain run =>
              have hm := modifyParts_modifyParts (addText run) (addText ['\n']) d
              simp only [addText_addText (List.cons_ne_nil _ _)] at hm
              exact congrArg Except.ok hm.symm
          | token inner => exact hcons
      | cons q qs =>
          rw [Piece.addLineEnd_cons_cons]
          exact hcons

theorem abandon_lineEnd (parts : List Segment) (o : Opened) (os : List Opened) :
    abandon parts ({ o with parts := addText ['\n'] o.parts } :: os) =
      addText ['\n'] (abandon parts (o :: os)) := by
  induction os generalizing o with
  | nil => rw [abandon, abandon, foldl_add_lineEnd]
  | cons o' os ih =>
      let merged := o.parts.reverse.foldl (fun ps s => add s ps) (addText o.opener o'.parts)
      rw [abandon, abandon, foldl_add_lineEnd]
      exact ih { o' with parts := merged }

end Division

theorem divide_lenient (limit : Option Nat) (t : Text) : divide false limit t =
    (Division.takeAll false limit t 0 (Piece.ofText t) ⟨[], []⟩).bind fun d =>
      match d.opened with
      | _ :: _ => .ok (Division.abandon d.parts d.opened).reverse
      | [] => .ok d.parts.reverse := rfl

theorem parseLenient_lineEnd (limit : Option Nat) (t : Text) :
    ∃ ps, parseLenient limit t = ps.reverse ∧
      parseLenient limit (t ++ ['\n']) = (addText ['\n'] ps).reverse := by
  simp only [parseLenient, divide_lenient, Piece.ofText_lineEnd]
  rw [Division.takeAll_lineEnd (by simp)]
  cases Division.takeAll false limit t 0 (Piece.ofText t) ⟨[], []⟩ with
  | error e => exact ⟨[text t], rfl, rfl⟩
  | ok d =>
      obtain ⟨opened, parts⟩ := d
      cases opened with
      | nil => exact ⟨parts, rfl, rfl⟩
      | cons o os =>
          refine ⟨Division.abandon parts (o :: os), rfl, ?_⟩
          rw [← Division.abandon_lineEnd]
          rfl

end Segment

theorem Text.keepsLineEnd_resolve (limit : Option Nat) (vars : Variables) :
    KeepsLineEnd (resolve limit vars) := by
  intro t
  obtain ⟨ps, h₁, h₂⟩ := Segment.parseLenient_lineEnd limit t
  rw [resolve, resolve, h₁, h₂, Segment.resolveAll_addText]

end Gamebook
