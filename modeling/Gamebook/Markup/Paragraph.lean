import Gamebook.Markup.Style
import Gamebook.Text.Line

/-!
# Paragraphs

Lines of nothing but spaces and tabs separate paragraphs; the line breaks within one are kept.
-/

namespace Gamebook.Markup

/-- The text after a blank line that starts it: two line feeds with only spaces and tabs between. -/
def afterBlankLine? (t : Text) : Option Text :=
  match t with
  | '\n' :: r =>
    match Text.skipGap r with
    | '\n' :: rest => some rest
    | _ => none
  | _ => none

/-- A paragraph of a text: its lines without the blanks around them, a break between any two. -/
def paragraph (t : Text) : Text :=
  element "p" (Text.join "<br>".toList ((Text.splitLines t).map Text.trim))

/-- The paragraphs of a text. -/
def paragraphs (t : Text) : Text :=
  (((Text.splitAll afterBlankLine? t).map Text.trim).filter (· ≠ [])).flatMap paragraph

end Gamebook.Markup
