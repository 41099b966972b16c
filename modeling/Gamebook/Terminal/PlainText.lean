import Gamebook.Html.Reference
import Gamebook.Text.WordChar

/-!
# Pages on a terminal

A rendered page becomes plain text: images and videos leave a mark in brackets, breaks become line
feeds, a paragraph is followed by a blank line, every other tag goes, and references are decoded
last.
-/

namespace Gamebook.Terminal

/-- The text after a tag's name, if no word goes on behind it. -/
def afterTagName? (start : String) (t : Text) : Option Text := do
  let r ← Text.after? start.toList t
  if r.head?.any Text.isWordChar then none else some r

/-- The text after the next closing angle bracket. -/
def afterTagEnd? (t : Text) : Option Text :=
  match t.dropWhile (· ≠ '>') with
  | '>' :: rest => some rest
  | _ => none

/-- The value of an `alt` attribute that starts a text, and the text after its tag. -/
def altHere? (t : Text) : Option (Text × Text) := do
  let r ← Text.after? "alt=\"".toList t
  match r.dropWhile (· ≠ '"') with
  | '"' :: rest => (afterTagEnd? rest).map (r.takeWhile (· ≠ '"'), ·)
  | _ => none

/-- The value of the last `alt` attribute before the first closing angle bracket, and the text after
its tag; `before` is the character in front of the text. -/
def lastAlt? (before : Option Char) : Text → Option (Text × Text)
  | [] => none
  | c :: r =>
    let here := if before.any Text.isWordChar then none else altHere? (c :: r)
    if c = '>' then here else lastAlt? (some c) r <|> here

/-- The mark for an image tag that starts a text, and the text after the tag. -/
def image? (t : Text) : Option (Text × Text) := do
  let r ← afterTagName? "<img" t
  let (alt, rest) ← lastAlt? (some 'g') r
  some ("[image: ".toList ++ alt ++ [']'], rest)

/-- The mark for a video tag that starts a text, and the text after the tag. -/
def video? (t : Text) : Option (Text × Text) := do
  let rest ← afterTagEnd? (← afterTagName? "<video" t)
  some ("[video]".toList, rest)

/-- The line feed for a break that starts a text, and the text after the tag. -/
def lineBreak? (t : Text) : Option (Text × Text) :=
  match t with
  | '<' :: b :: r :: rest =>
    if b.toLower = 'b' ∧ r.toLower = 'r' then
      match rest.dropWhile Text.isBlank with
      | '/' :: '>' :: rest | '>' :: rest => some (['\n'], rest)
      | _ => none
    else none
  | _ => none

/-- Nothing for a tag that starts a text, and the text after the tag. -/
def tag? (t : Text) : Option (Text × Text) :=
  match t with
  | '<' :: c :: r => if c = '>' then none else (afterTagEnd? r).map ([], ·)
  | _ => none

/-- The plain text of a rendered page. -/
def plainText (html : Text) : Text :=
  let pass (f : Text → Option (Text × Text)) (t : Text) : Text :=
    Text.replaceMatches (fun _ t => f t) t
  let t := pass lineBreak? (pass video? (pass image? html))
  let t := pass tag? (Text.replaceAll "</p>".toList ['\n', '\n'] t)
  Html.Reference.decode (Text.trim t)

end Gamebook.Terminal
