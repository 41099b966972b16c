import Gamebook.Proofs.Conditional.Residue
import Gamebook.Proofs.Directive.Around
import Gamebook.Proofs.Page.Inside

/-!
# What a hidden block holds

A block on one line whose test fails has no part in the rendering of its page: whatever body it has,
the page says the same, sets the same variables, asks for the same sounds and leads to the same pages.
The body may hold blocks of its own, sounds, gotos, assets and loose braces, but no assignments, which
run wherever they stand.
-/

namespace Gamebook

open Text Piece

variable {opener b s r : Text} {test : Test} {vars : Variables} {limit : Option Nat}

/-! ## The block -/

namespace Text

/-- How a block ends. -/
def blockEnd : Text := "/if".toList

/-- Whether a text can be the body of a block on one line: it has no line break and no assignments, and
its brackets match. -/
structure IsBody (b : Text) : Prop where
  oneLine : '\n' ∉ b ∧ '\r' ∉ b
  plain : Directive.assignments b = []
  matched : Bracket.matched 0 b.brackets = true

/-- A block between two texts. -/
def withBlock (s opener b r : Text) : Text :=
  s ++ ((token opener).source ++ (b ++ ((token blockEnd).source ++ r)))

theorem blockEnd_proper : blockEnd.filter isMark = [] := by decide

theorem ofText_withBlock (hi : opener.filter isMark = []) (s b r : Text) :
    ofText (withBlock s opener b r) =
      ofText s ++ ((token opener :: ofText b ++ [token blockEnd]) ++ ofText r) := by
  rw [withBlock, ofText_append_token hi, ofText_append_token blockEnd_proper]
  simp

theorem assignments_withBlock (hi : opener.filter isMark = [])
    (ho : Directive.opening? opener = some test) (hb : b.IsBody) (s r : Text) :
    Directive.assignments (withBlock s opener b r) =
      Directive.assignments s ++ Directive.assignments r := by
  have he : (Directive.assignmentReaders.filterMap fun read => read blockEnd) = [] := by decide
  have hp := hb.plain
  simp only [Directive.assignments] at hp ⊢
  rw [withBlock, Find.gather_append_token hi, Find.gather_append_token blockEnd_proper, hp, he,
    (Directive.not_assignment_of_opening? ho).1]
  rfl

theorem dropAssignments_withBlock (hi : opener.filter isMark = [])
    (ho : Directive.opening? opener = some test) (hb : b.IsBody) (s r : Text) :
    Directive.dropAssignments (withBlock s opener b r) =
      withBlock (Directive.dropAssignments s) opener b (Directive.dropAssignments r) := by
  have he : ∀ p ∈ Directive.assignmentKinds, p blockEnd = false := by decide
  have hbody := Directive.dropAssignments_eq_self hb.plain
  rw [Directive.dropAssignments_eq] at hbody
  rw [Directive.dropAssignments_eq, withBlock,
    Directive.dropInTurn_append_token hi (Directive.not_assignment_of_opening? ho).2,
    Directive.dropInTurn_append_token blockEnd_proper he, hbody]
  rfl

/-- Nothing is left of a block whose test fails. -/
theorem resolve_withBlock (hi : opener.filter isMark = [])
    (ho : Directive.opening? opener = some test) (ht : test.holds vars = false) (hb : b.IsBody)
    (hn : Segment.Allows limit (withBlock s opener b r).nesting) :
    resolve limit vars (withBlock s opener b r) =
      (Residue.take vars ⟨[], []⟩ (ofText s ++ ofText r)).all := by
  rw [Segment.resolve_of_nesting hn, ofText_withBlock hi, Residue.take_append, Residue.take_append,
    Residue.take_hidden ho (Directive.isClosing_of_opening? ho) (by decide) ht hb.matched,
    Residue.take_append]

end Text

/-! ## The page -/

namespace Page

variable {p q : Page} {b' : Text}

/-- The page of a text with a block in it. -/
def withBlock (s opener b r : Text) : Page := .ofSource (String.ofList (Text.withBlock s opener b r))

theorem render_of_prose (h : p.prose = q.prose) (config : RenderConfig) (allowed : Html.AllowList)
    (vars : Variables) :
    p.render config allowed vars =
      { q.render config allowed vars with choices := p.choices, isEnding := p.isEnding } := by
  simp only [render, markup, shownProse, resolvedProse, variablesAfter, h]

theorem render_of_resolvedProse {config : RenderConfig} {vars : Variables}
    (hv : p.variablesAfter vars = q.variablesAfter vars)
    (hr : p.resolvedProse config vars = q.resolvedProse config vars) (allowed : Html.AllowList) :
    p.render config allowed vars =
      { q.render config allowed vars with choices := p.choices, isEnding := p.isEnding } := by
  simp only [render, markup, shownProse, hv, hr]

/-- A page with a block has the same prose whatever the body, or its prose is that around the block with
the block in it. -/
theorem prose_withBlock (hi : opener.filter isMark = []) (hr : '\r' ∉ opener) (a c : Text) :
    (∃ x, ∀ b : Text, b.IsBody → (withBlock a opener b c).prose = x) ∨
    ∃ x y, ∀ b : Text, b.IsBody → (withBlock a opener b c).prose = Text.withBlock x opener b y := by
  have hline {b : Text} (hb : b.IsBody) :
      '\n' ∉ opener ++ '\x7d' :: (b ++ (token blockEnd).source) ∧
        '\r' ∉ opener ++ '\x7d' :: (b ++ (token blockEnd).source) := by
    have hn : '\n' ∉ opener := fun hm => List.filter_eq_nil_iff.1 hi _ hm rfl
    have he : '\n' ∉ (token blockEnd).source ∧ '\r' ∉ (token blockEnd).source := by decide
    simp [hn, hr, hb.oneLine, he]
  have heq (x b y : Text) : x ++ '\x7b' :: ((opener ++ '\x7d' :: (b ++ (token blockEnd).source)) ++ y) =
      Text.withBlock x opener b y := by
    simp [Text.withBlock, source]
  rcases prose_inside a c with ⟨x, h⟩ | ⟨x, y, h⟩
  · refine .inl ⟨x, fun b hb => ?_⟩
    rw [withBlock, ← heq]
    exact h _ (hline hb).1 (hline hb).2
  · refine .inr ⟨x, y, fun b hb => ?_⟩
    rw [withBlock, ← heq, ← heq]
    exact h _ (hline hb).1 (hline hb).2

/-- The body of a block on one line whose test fails has no part in how its page is rendered, where
both bodies keep the page within the limit on nested blocks. -/
theorem render_withBlock (hi : (token opener).Proper) (hr : '\r' ∉ opener)
    (ho : Directive.opening? opener = some test) (hb : b.IsBody) (hb' : b'.IsBody) (a c : Text)
    (config : RenderConfig) (allowed : Html.AllowList) (vars : Variables)
    (ht : test.holds ((withBlock a opener b c).variablesAfter vars) = false)
    (hn : (Directive.dropAssignments (withBlock a opener b c).prose).nesting ≤ config.maxIfDepth)
    (hn' : (Directive.dropAssignments (withBlock a opener b' c).prose).nesting ≤ config.maxIfDepth) :
    let shown := (withBlock a opener b c).render config allowed vars
    let shown' := (withBlock a opener b' c).render config allowed vars
    shown.html = shown'.html ∧ shown.vars = shown'.vars ∧ shown.sounds = shown'.sounds ∧
      shown.gotos = shown'.gotos := by
  have hallows {n : Nat} (h : n ≤ config.maxIfDepth) : Segment.Allows (some config.maxIfDepth) n :=
    fun m hm => Option.some.inj hm ▸ h
  rcases prose_withBlock hi hr a c with ⟨x, h⟩ | ⟨x, y, h⟩
  · simp only [render_of_prose ((h b hb).trans (h b' hb').symm), and_self]
  · have hv : (withBlock a opener b c).variablesAfter vars =
        (withBlock a opener b' c).variablesAfter vars := by
      simp only [variablesAfter, h b hb, h b' hb', assignments_withBlock hi ho hb,
        assignments_withBlock hi ho hb']
    have hres : (withBlock a opener b c).resolvedProse config vars =
        (withBlock a opener b' c).resolvedProse config vars := by
      rw [h b hb, dropAssignments_withBlock hi ho hb] at hn
      rw [h b' hb', dropAssignments_withBlock hi ho hb'] at hn'
      simp only [resolvedProse, ← hv, h b hb, h b' hb', dropAssignments_withBlock hi ho hb,
        dropAssignments_withBlock hi ho hb']
      rw [resolve_withBlock hi ho ht hb (hallows hn), resolve_withBlock hi ho ht hb' (hallows hn')]
    simp only [render_of_resolvedProse hv hres, and_self]

/-- A key that is not there hides what it unlocks: the map, the sound of the door and the way to page 5
are as absent as from a block that says the door is locked. -/
theorem render_withBlock_key :
    let s := "A door.\x7bif:lamp\x7d It gleams, \x7bset:key=false\x7d".toList
    let opener := "if:key".toList
    let unlocked :=
      "You \x7bif:map\x7dread \x7bmap.png\x7d,\x7b/if\x7d enter\x7d \x7bsfx:door.wav\x7d\x7bgoto:5\x7d".toList
    let locked := "It is \x7blocked.".toList
    let r := " Go back.\x7b/if\x7d\x7b/if\x7d\x7bstop:all\x7d\na) Wait".toList
    let shown := (withBlock s opener unlocked r).render {} .story .empty
    let shown' := (withBlock s opener locked r).render {} .story .empty
    shown.html = shown'.html ∧ shown.vars = shown'.vars ∧ shown.sounds = shown'.sounds ∧
      shown.gotos = shown'.gotos := by
  intro s opener unlocked locked r
  have hu : Text.IsBody unlocked := by
    refine ⟨by decide +kernel, ?_, by decide +kernel⟩
    simp only [Directive.assignments, Find.gather_eq]
    decide +kernel
  have hl : Text.IsBody locked := by
    refine ⟨by decide +kernel, ?_, by decide +kernel⟩
    simp only [Directive.assignments, Find.gather_eq]
    decide +kernel
  have hi : opener.filter isMark = [] := by decide
  have ho : Directive.opening? opener = some ⟨"key", .eq, .bool true⟩ := by decide +kernel
  refine render_withBlock hi (by decide) ho hu hl s r {} .story .empty ?_ ?_ ?_
  · simp only [variablesAfter, Directive.assignments, Find.gather_eq]
    decide +kernel
  · decide +kernel
  · decide +kernel

end Page
end Gamebook
