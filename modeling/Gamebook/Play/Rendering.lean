import Gamebook.Conditional.Segment
import Gamebook.Directive.Scan
import Gamebook.Html.AllowList
import Gamebook.Markup.Paragraph
import Gamebook.Markup.Placeholder
import Gamebook.Page.ChoiceLine

/-!
# Rendering a page

The prose of a page is its text without the choice lines. Its assignments run first, wherever they
stand; conditional blocks are then resolved with the variables that result, and what they leave says
which sounds are asked for and where the page leads. The rest is marked up and sanitized.
-/

namespace Gamebook

/-- What a page turns out to be for a reader with certain variables. -/
structure Rendering where
  html : Text
  vars : Variables
  sounds : List Sound
  gotos : List PageId
  choices : List Choice
  isEnding : Bool

namespace Page

/-- The text without the choice lines. -/
def prose (p : Page) : Text := (Choice.split p.content.toList).2

/-- The variables after the page's assignments. -/
def variablesAfter (p : Page) (vars : Variables) : Variables :=
  Assignment.applyAll vars (Directive.assignments p.prose)

/-- The prose that the conditional blocks leave. -/
def resolvedProse (p : Page) (config : RenderConfig) (vars : Variables) : Text :=
  Text.resolve (some config.maxIfDepth) (p.variablesAfter vars) (Directive.dropAssignments p.prose)

/-- The prose that is shown. -/
def shownProse (p : Page) (config : RenderConfig) (vars : Variables) : Text :=
  Directive.dropSideEffects (p.resolvedProse config vars)

/-- The paragraphs before they are sanitized. -/
def markup (p : Page) (config : RenderConfig) (vars : Variables) : Text :=
  Markup.paragraphs (Markup.placeholders config (Markup.style (p.shownProse config vars)))

/-- The page rendered for a reader with variables `vars`. -/
def render (p : Page) (config : RenderConfig) (allowed : Html.AllowList) (vars : Variables) :
    Rendering where
  html := allowed.sanitize (p.markup config vars)
  vars := p.variablesAfter vars
  sounds := Directive.sounds (p.resolvedProse config vars)
  gotos := Directive.gotos (p.resolvedProse config vars)
  choices := p.choices
  isEnding := p.isEnding

end Page
end Gamebook
