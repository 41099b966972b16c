import Gamebook.Play.Rendering
import Gamebook.Proofs.Conditional.LineEnd
import Gamebook.Proofs.Markup.LineEnd

/-!
# Pages and the end of their prose

A page is rendered in the same way however many line feeds its prose ends with.
-/

namespace Gamebook

open Text

namespace Directive

theorem assignments_lineEnd (t : Text) : assignments (t ++ ['\n']) = assignments t := by
  rw [assignments, assignments, Find.gather_eq, Find.gather_eq, Piece.tokens_lineEnd]

theorem sounds_lineEnd (t : Text) : sounds (t ++ ['\n']) = sounds t := by
  rw [sounds, sounds, Find.gather_eq, Find.gather_eq, Piece.tokens_lineEnd]

theorem gotos_lineEnd (t : Text) : gotos (t ++ ['\n']) = gotos t := by
  rw [gotos, gotos, Find.gather_eq, Find.gather_eq, Piece.tokens_lineEnd]

theorem keepsLineEnd_dropInTurn (kinds : List (Text → Bool)) : KeepsLineEnd (dropInTurn kinds) := by
  intro t
  induction kinds generalizing t with
  | nil => rfl
  | cons p kinds ih =>
      have hp := Piece.keepsLineEnd_dropTokens p t
      simp only [dropInTurn, List.foldl_cons, hp] at ih ⊢
      exact ih _

end Directive

namespace Page

variable {p : Page} {body : Text} {n : Nat}

theorem variablesAfter_of_prose (h : p.prose = body ++ lineFeeds n) (vars : Variables) :
    p.variablesAfter vars = Assignment.applyAll vars (Directive.assignments body) := by
  rw [variablesAfter, h, ignores_lineFeeds Directive.assignments_lineEnd]

theorem resolvedProse_of_prose (h : p.prose = body ++ lineFeeds n) (config : RenderConfig)
    (vars : Variables) :
    p.resolvedProse config vars =
      resolve (some config.maxIfDepth)
        (Assignment.applyAll vars (Directive.assignments body)) (Directive.dropAssignments body)
          ++ lineFeeds n := by
  have hd : Directive.dropAssignments (body ++ lineFeeds n) =
      Directive.dropAssignments body ++ lineFeeds n :=
    (Directive.keepsLineEnd_dropInTurn _).lineFeeds body n
  rw [resolvedProse, variablesAfter_of_prose h, h, hd, (keepsLineEnd_resolve _ _).lineFeeds]

theorem markup_of_prose (h : p.prose = body ++ lineFeeds n) (config : RenderConfig)
    (vars : Variables) :
    p.markup config vars =
      Markup.paragraphs (Markup.placeholders config (Markup.style (Directive.dropSideEffects
        (resolve (some config.maxIfDepth)
          (Assignment.applyAll vars (Directive.assignments body))
          (Directive.dropAssignments body))))) := by
  have hd (t : Text) : Directive.dropSideEffects (t ++ lineFeeds n) =
      Directive.dropSideEffects t ++ lineFeeds n :=
    (Directive.keepsLineEnd_dropInTurn _).lineFeeds t n
  rw [markup, shownProse, resolvedProse_of_prose h, hd, Markup.keepsLineEnd_style.lineFeeds,
    (Markup.keepsLineEnd_placeholders config).lineFeeds,
    ignores_lineFeeds Markup.paragraphs_lineEnd]

/-- Pages whose proses differ in the line feeds at their ends alone are rendered alike. -/
theorem render_congr {q : Page} {m : Nat} (hp : p.prose = body ++ lineFeeds n)
    (hq : q.prose = body ++ lineFeeds m) (hc : p.choices = q.choices)
    (he : p.isEnding = q.isEnding) (config : RenderConfig) (allowed : Html.AllowList)
    (vars : Variables) : p.render config allowed vars = q.render config allowed vars := by
  simp only [render, markup_of_prose hp, markup_of_prose hq, variablesAfter_of_prose hp,
    variablesAfter_of_prose hq, resolvedProse_of_prose hp, resolvedProse_of_prose hq,
    ignores_lineFeeds Directive.sounds_lineEnd, ignores_lineFeeds Directive.gotos_lineEnd, hc, he]

end Page
end Gamebook
