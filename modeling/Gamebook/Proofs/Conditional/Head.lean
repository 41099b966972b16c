import Gamebook.Directive.Find
import Gamebook.Proofs.Conditional.LineEnd

/-!
# Heads of blocks

The blocks of a text begin at opening tokens of the text, each at one of its own, in the order of the
text, and each has the test that its opening token says. An opening token without a partner begins no
block.
-/

namespace Gamebook.Segment

variable {strict : Bool} {limit : Option Nat} {whole : Text} {start : Nat} {p : Piece}
  {ps : List Piece} {d d' : Division} {xs : List (Nat × Test)}

/-- Where the blocks of segments begin, and with which tests, outer before inner. -/
def heads (ss : List Segment) : List (Nat × Test) := (blocksOf ss).map fun b => (b.1, b.2.1)

theorem heads_append (ss rest : List Segment) : heads (ss ++ rest) = heads ss ++ heads rest := by
  induction ss with
  | nil => rfl
  | cons s ss ih =>
      simp only [heads] at ih
      simp only [List.cons_append, heads, blocksOf, List.map_append, ih, List.append_assoc]

theorem heads_text (run : Text) : heads [text run] = [] := rfl

/-- The heads of parts that are held newest first. -/
def headsOfParts (parts : List Segment) : List (Nat × Test) := heads parts.reverse

theorem headsOfParts_addText (run : Text) (parts : List Segment) :
    headsOfParts (addText run parts) = headsOfParts parts := by
  unfold addText
  split
  · rfl
  · split
    · simp [headsOfParts, heads_append, heads_text]
    · simp [headsOfParts, heads_append, heads_text]

theorem headsOfParts_add (s : Segment) (parts : List Segment) :
    headsOfParts (add s parts) = headsOfParts parts ++ heads [s] := by
  cases s with
  | text run =>
      rw [add, headsOfParts_addText, heads_text, List.append_nil]
  | block => simp [add, headsOfParts, heads_append]

theorem headsOfParts_foldl_add (ss parts : List Segment) :
    headsOfParts (ss.foldl (fun ps s => add s ps) parts) = headsOfParts parts ++ heads ss := by
  induction ss generalizing parts with
  | nil => exact (List.append_nil _).symm
  | cons s ss ih =>
      rw [List.foldl_cons, ih, headsOfParts_add, List.append_assoc, ← heads_append,
        List.singleton_append]

namespace Division

/-- The heads of the blocks that are open, outermost first, each before those of its own parts. -/
def headsOfOpened (os : List Opened) : List (Nat × Test) :=
  os.reverse.flatMap fun o => (o.start, o.test) :: headsOfParts o.parts

/-- The heads of a division so far, in the order in which they were taken. -/
def heads (d : Division) : List (Nat × Test) := headsOfParts d.parts ++ headsOfOpened d.opened

theorem headsOfOpened_cons (o : Opened) (os : List Opened) :
    headsOfOpened (o :: os) = headsOfOpened os ++ (o.start, o.test) :: headsOfParts o.parts := by
  simp [headsOfOpened]

theorem heads_modifyParts {f : List Segment → List Segment}
    (hf : ∀ parts, headsOfParts (f parts) = headsOfParts parts ++ xs) :
    (d.modifyParts f).heads = d.heads ++ xs := by
  obtain ⟨opened, parts⟩ := d
  cases opened with
  | nil => simp [modifyParts, heads, hf, headsOfOpened]
  | cons o os => simp [modifyParts, heads, hf, headsOfOpened_cons]

theorem heads_modifyParts_addText (run : Text) : (d.modifyParts (addText run)).heads = d.heads := by
  have h : (d.modifyParts (addText run)).heads = d.heads ++ [] := heads_modifyParts fun parts => by
    rw [headsOfParts_addText, List.append_nil]
  rwa [List.append_nil] at h

/-- The head of a block that a piece opens. -/
def headAt? (x : Nat × Piece) : Option (Nat × Test) :=
  (Piece.tokenAt? x).bind fun (start, inner) => (Directive.opening? inner).map (start, ·)

/-- A piece adds no head, or the one that it opens a block with. -/
theorem heads_step (h : d.step strict limit whole start p = .ok d') :
    d'.heads = d.heads ∨ ∃ x, headAt? (start, p) = some x ∧ d'.heads = d.heads ++ [x] := by
  rcases step_cases h with ⟨rfl, -⟩ | ⟨-, o, os, -, -, ho, rfl⟩ | ⟨inner, test, rfl, -, ht, rfl⟩
  · exact .inl (heads_modifyParts_addText _)
  · -- a block that is closed has the head that it had when it was opened
    refine .inl ?_
    rw [heads_modifyParts (headsOfParts_add _), heads, heads, ho, headsOfOpened_cons,
      List.append_assoc]
    simp [Segment.heads, headsOfParts, blocksOf, blocks]
  · refine .inr ⟨(start, test), by simp [headAt?, Piece.tokenAt?, ht], ?_⟩
    simp [heads, headsOfOpened_cons, headsOfParts, Segment.heads, blocksOf]

theorem heads_takeAll (h : takeAll strict limit whole start ps d = .ok d') :
    d'.heads.Sublist (d.heads ++ (Piece.locate start ps).filterMap headAt?) := by
  induction ps generalizing start d with
  | nil =>
      cases h
      simp [Piece.locate]
  | cons p ps ih =>
      obtain ⟨next, hs, h⟩ := takeAll_cons_eq_ok h
      have hnext := ih h
      rw [Piece.locate, List.filterMap_cons]
      rcases heads_step hs with hd | ⟨x, hx, hd⟩
      · rw [hd] at hnext
        refine hnext.trans ?_
        split
        · exact List.Sublist.refl _
        · exact (List.sublist_cons_self _ _).append_left _
      · rw [hd, List.append_assoc, List.singleton_append] at hnext
        rw [hx]
        exact hnext

/-- A block that becomes text behind its opening token keeps the heads of its parts. -/
theorem heads_merge (parts : List Segment) (o : Opened) (os : List Opened)
    {f : List Segment → List Segment}
    (hf : ∀ qs, f qs = o.parts.reverse.foldl (fun qs s => add s qs) (addText o.opener qs)) :
    (Division.modifyParts f ⟨os, parts⟩).heads.Sublist (heads ⟨o :: os, parts⟩) := by
  have hm : (Division.modifyParts f ⟨os, parts⟩).heads =
      heads ⟨os, parts⟩ ++ headsOfParts o.parts :=
    heads_modifyParts fun qs => by
      rw [hf, headsOfParts_foldl_add, headsOfParts_addText]
      rfl
  rw [hm, heads, heads, headsOfOpened_cons, List.append_assoc]
  exact ((List.sublist_cons_self _ _).append_left _).append_left _

/-- Of the blocks that stay open only the blocks within them are left. -/
theorem heads_abandon (parts : List Segment) (os : List Opened) :
    (headsOfParts (abandon parts os)).Sublist (heads ⟨os, parts⟩) := by
  match os with
  | [] =>
      rw [abandon, heads]
      exact List.sublist_append_left _ _
  | [o] =>
      rw [abandon]
      have h := heads_merge parts o [] fun _ => rfl
      simpa [modifyParts, heads, headsOfOpened] using h
  | o :: o' :: os =>
      rw [abandon]
      exact (heads_abandon parts _).trans (heads_merge parts o (o' :: os) fun _ => rfl)
termination_by os.length

end Division

/-- The blocks of a text begin at its opening tokens, in order. -/
theorem heads_parseLenient (limit : Option Nat) (t : Text) :
    (heads (parseLenient limit t)).Sublist (Find.inText Directive.opening? t) := by
  have hfind : Find.inText Directive.opening? t =
      (Piece.locate 0 (Piece.ofText t)).filterMap Division.headAt? := by
    rw [Find.inText, Piece.tokens, List.filterMap_filterMap]
    rfl
  rw [parseLenient, divide_lenient, hfind]
  cases ht : Division.takeAll false limit t 0 (Piece.ofText t) ⟨[], []⟩ with
  | error e => exact List.nil_sublist _
  | ok d =>
      have h := Division.heads_takeAll ht
      obtain ⟨opened, parts⟩ := d
      cases opened with
      | nil => exact (List.sublist_append_left _ _).trans h
      | cons o os => exact (Division.heads_abandon parts (o :: os)).trans h

end Gamebook.Segment
