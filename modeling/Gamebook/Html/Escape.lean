import Gamebook.Text.Basic

/-!
# Escaping

Text and attribute values are written with the characters that would end them, and the ampersand, as
references.
-/

namespace Gamebook.Html

/-- A character of a quoted attribute value that an author's text is put into. -/
def attributeChar (c : Char) : Text :=
  if c = '&' then "&amp;".toList
  else if c = '<' then "&lt;".toList
  else if c = '>' then "&gt;".toList
  else if c = '"' then "&quot;".toList
  else [c]

/-- A text as it stands in a quoted attribute value. -/
def attributeText (t : Text) : Text := t.flatMap attributeChar

end Gamebook.Html
