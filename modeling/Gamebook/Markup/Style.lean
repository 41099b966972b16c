import Gamebook.Text.Brace
import Gamebook.Text.Replace
import Gamebook.Text.WordChar

/-!
# Inline styling

Bold, italics and typographic dashes and dots in the runs between brace tokens; the tokens
themselves are copied. Underscores make italics only where neither of them touches a word.
-/

namespace Gamebook.Markup

/-- The inside of a span that starts the text, and the text after it: `mark` on both sides and, in
between, at least one character, no line feed and no `stop`. -/
def span? (mark : Text) (stop : Char) (t : Text) : Option (Text × Text) := do
  let r ← Text.after? mark t
  let inside := r.takeWhile fun c => c ≠ stop ∧ c ≠ '\n'
  if inside = [] then none
  else (Text.after? mark (r.drop inside.length)).map (inside, ·)

/-- An element without attributes. -/
def element (name : String) (inside : Text) : Text :=
  '<' :: name.toList ++ '>' :: inside ++ '<' :: '/' :: name.toList ++ ['>']

/-- Makes each span an element. -/
def styleSpans (mark : String) (stop : Char) (name : String) (t : Text) : Text :=
  Text.replaceMatches
    (fun _ t => (span? mark.toList stop t).map fun (inside, rest) => (element name inside, rest)) t

/-- The characters of a word: letters and numbers of every script, and the underscore. -/
def isWordLetter (c : Char) : Bool := Text.isAlphanumeric c || c == '_'

/-- Makes each span between underscores italic that has no word letter on either side. -/
def italicizeUnderscores (t : Text) : Text :=
  Text.replaceMatches
    (fun before t =>
      match span? ['_'] '_' t with
      | none => none
      | some (inside, rest) =>
        if before.any isWordLetter || rest.head?.any isWordLetter then none
        else some (element "em" inside, rest))
    t

/-- Three hyphens, then two, then three dots become one character. -/
def setDashes (t : Text) : Text :=
  Text.replaceAll "...".toList ['\u2026']
    (Text.replaceAll "--".toList ['\u2013'] (Text.replaceAll "---".toList ['\u2014'] t))

/-- Styles a run without brace tokens: bold before italics, stars before underscores. -/
def styleRun (run : Text) : Text :=
  let run := styleSpans "**" '*' "strong" run
  let run := styleSpans "__" '_' "strong" run
  let run := styleSpans "*" '*' "em" run
  setDashes (italicizeUnderscores run)

/-- Styles a text around its brace tokens. -/
def style (t : Text) : Text :=
  (Piece.ofText t).flatMap fun
    | .plain run => styleRun run
    | token => token.source

end Gamebook.Markup
