import Gamebook.Asset.Catalog
import Gamebook.Html.Escape
import Gamebook.Html.Reference
import Gamebook.Text.WordChar

/-!
# Asset sources

A media tag whose source is a placeholder gets the address of the file that the placeholder names.
Where there is no such file, the tag keeps the placeholder and gains a class that says so.
-/

namespace Gamebook.Asset

/-- The quoted text after `opening` that starts a text, and the text behind its closing quote. -/
def quoted? (opening : String) (t : Text) : Option (Text × Text) := do
  let r ← Text.after? opening.toList t
  let value := r.takeWhile (· ≠ '"')
  match r.drop value.length with
  | '"' :: rest => some (value, rest)
  | _ => none

/-- How the source of a placeholder starts. -/
def sourceOpening : String := "src=\"asset:"

/-- How a class attribute starts. -/
def classOpening : String := "class=\""

/-- The class of a media element without a file. -/
def missingClass : String := "asset-missing"

/-- A tag with the class for a missing file, in its class attribute or in a new one. -/
def markMissing (tag : Text) : Text :=
  match Text.splitFirst? (quoted? classOpening) tag with
  | some (before, value, rest) =>
    before ++ classOpening.toList ++ value ++ ' ' :: missingClass.toList ++ '"' :: rest
  | none =>
    if tag.getLast? = some '>' then
      tag.dropLast ++ ' ' :: classOpening.toList ++ missingClass.toList ++ ['"', '>']
    else tag

/-- A media tag with its placeholder resolved. -/
def resolveTag (catalog : Catalog) (tag : Text) : Text :=
  match Text.splitFirst? (quoted? sourceOpening) tag with
  | none => tag
  | some (before, name, rest) =>
    match catalog.address? (String.ofList (Html.Reference.decode name)) with
    | some address =>
      before ++ "src=\"".toList ++ Html.attributeText address.toList ++ '"' :: rest
    | none => markMissing tag

/-- The start tag of an image or a video that starts a text, and the text after it. -/
def mediaTag? (t : Text) : Option (Text × Text) := do
  let r ← Text.after? "<img".toList t <|> Text.after? "<video".toList t
  if r.head?.any Text.isWordChar then none
  else
    let inside := r.takeWhile fun c => c ≠ '<' ∧ c ≠ '>'
    match r.drop inside.length with
    | '>' :: rest => some (t.take (t.length - rest.length), rest)
    | _ => none

/-- The text with the placeholders of its media tags resolved. -/
def resolveSources (catalog : Catalog) (html : Text) : Text :=
  Text.replaceMatches
    (fun _ t => (mediaTag? t).map fun (tag, rest) => (resolveTag catalog tag, rest)) html

end Gamebook.Asset
