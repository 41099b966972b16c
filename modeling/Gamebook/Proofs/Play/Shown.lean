import Gamebook.Play.Rendering
import Gamebook.Proofs.Conditional.Sublist
import Gamebook.Proofs.Directive.Pass

/-!
# Directives that are shown

No directive is left in the prose that a page shows, unless the passes that drop directives and blocks
bring a loose opening brace and a loose closing brace together.
-/

namespace Gamebook

open Piece

namespace Text

variable {limit : Option Nat} {vars : Variables} {t i : Text}

theorem apart_resolve (h : t.Apart) : (resolve limit vars t).Apart := by
  obtain ⟨qs, hs, he⟩ := Segment.leftOf_resolve limit vars t
  rw [← he]
  exact (apart_of_sublist h hs).1

theorem mem_insides_of_resolve (h : t.Apart) (hi : i ∈ insides (ofText (resolve limit vars t))) :
    i ∈ insides (ofText t) := by
  obtain ⟨qs, hs, he⟩ := Segment.leftOf_resolve limit vars t
  rw [← he, (apart_of_sublist h hs).2] at hi
  exact (hs.filterMap inside?).subset hi

end Text

namespace Page

variable {p : Page} {i : Text}

theorem apart_resolvedProse (h : p.prose.Apart) (config : RenderConfig) (vars : Variables) :
    (p.resolvedProse config vars).Apart :=
  Text.apart_resolve (Directive.apart_dropInTurn h _)

/-- What the blocks leave has tokens of the prose only, and no assignments. -/
theorem mem_insides_of_resolvedProse (h : p.prose.Apart) {config : RenderConfig} {vars : Variables}
    (hi : i ∈ insides (ofText (p.resolvedProse config vars))) :
    i ∈ insides (ofText p.prose) ∧ i ∈ insides (ofText (Directive.dropAssignments p.prose)) := by
  have hd := Text.mem_insides_of_resolve (Directive.apart_dropInTurn h _) hi
  exact ⟨((Directive.mem_insides_dropInTurn h).1 hd).1, hd⟩

theorem gotos_resolvedProse (h : p.prose.Apart) (hg : Directive.gotos p.prose = [])
    (config : RenderConfig) (vars : Variables) :
    Directive.gotos (p.resolvedProse config vars) = [] := by
  rw [Directive.gotos, Find.gather_eq_nil_iff] at hg ⊢
  exact fun i hi => hg i (mem_insides_of_resolvedProse h hi).1

theorem assignments_shownProse (h : p.prose.Apart) (config : RenderConfig) (vars : Variables) :
    Directive.assignments (p.shownProse config vars) = [] := by
  refine Find.gather_eq_nil_iff.2 fun i hi => ?_
  have hr := (Directive.mem_insides_dropInTurn (apart_resolvedProse h config vars)).1 hi
  have hd := (mem_insides_of_resolvedProse h hr.1).2
  exact Find.gather_eq_nil_iff.1 (Directive.assignments_dropAssignments h) i hd

end Page

/-- In a text without loose braces that could meet, no assignment is left when assignments are
dropped, and no sound and no goto when those are; and a page with this prose shows no directive. -/
theorem Text.no_directive_left_of_apart {t : Text} (h : t.Apart) :
    (Directive.assignments (Directive.dropAssignments t) = [] ∧
      Directive.sounds (Directive.dropSideEffects t) = [] ∧
      Directive.gotos (Directive.dropSideEffects t) = []) ∧
    ∀ (p : Page) (config : RenderConfig) (vars : Variables), p.prose = t →
      Directive.assignments (p.shownProse config vars) = [] ∧
      Directive.sounds (p.shownProse config vars) = [] ∧
      Directive.gotos (p.shownProse config vars) = [] := by
  constructor
  · exact ⟨Directive.assignments_dropAssignments h, Directive.sounds_dropSideEffects h⟩
  · rintro p config vars rfl
    exact ⟨Page.assignments_shownProse h config vars,
      Directive.sounds_dropSideEffects (Page.apart_resolvedProse h config vars)⟩

/-- A page that shows a loose brace and a token that is no directive shows no directive. -/
theorem Text.no_directive_left_of_loose_brace :
    let p := Page.ofSource
      "\x7bset:x=1\x7dRain\x7bif:x\x7d \x7bsfx:rain.wav\x7dfalls\x7b/if\x7d.\x7bstop:rain\x7d \x7b"
    ∀ (config : RenderConfig) (vars : Variables),
      Directive.assignments (p.shownProse config vars) = [] ∧
      Directive.sounds (p.shownProse config vars) = [] ∧
      Directive.gotos (p.shownProse config vars) = [] := by
  intro p config vars
  have h : p.prose.Apart := by decide +kernel
  exact (Text.no_directive_left_of_apart h).2 p config vars rfl

/-- A sound inside a token of music makes that token a directive only when it is gone, after music was
looked for; and so it is with assignments. -/
theorem Text.directive_left_of_nested :
    let music := "\x7bmusic:\x7bsfx:a.wav\x7db.mp3\x7dNight."
    let sum := "\x7bset:\x7bsub:a=1\x7db=2\x7dNight."
    Directive.sounds ((Page.ofSource music).shownProse {} .empty) = [.music "b.mp3" false] ∧
    Directive.sounds (Directive.dropSideEffects music.toList) = [.music "b.mp3" false] ∧
    Directive.assignments ((Page.ofSource sum).shownProse {} .empty) = [.set "b" (.number 2)] ∧
    Directive.assignments (Directive.dropAssignments sum.toList) = [.set "b" (.number 2)] := by
  simp only [Directive.sounds, Directive.assignments, Find.gather_eq]
  decide +kernel

end Gamebook
