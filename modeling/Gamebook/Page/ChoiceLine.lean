import Gamebook.Page.Basic
import Gamebook.Text.Line

/-!
# Choice lines

A line such as `b) [3ab] Return to the cave` offers a choice: a letter in either case, a closing
parenthesis, the page it leads to in brackets if the author names one, and the words of the choice.
`Choice.split` takes such lines out of a text.
-/

namespace Gamebook.Choice

/-- Splits a target in brackets off the front of the text after a choice's letter; something must
follow the bracket. -/
def splitTarget? (t : Text) : Option (Text × Text) :=
  match t with
  | '[' :: r =>
    let (ds, r) := Decimal.splitDigits r
    let isLetter (ch : Char) : Bool := (Letter.ofChar? ch.toLower).isSome
    match ds, r.dropWhile isLetter with
    | _ :: _, ']' :: rest => if rest = [] then none else some (ds ++ r.takeWhile isLetter, rest)
    | _, _ => none
  | _ => none

/-- The choice that a line offers. A target in brackets that is no page id is dropped. -/
def ofLine? (line : Text) : Option Choice :=
  match line with
  | ch :: ')' :: r =>
    match Letter.ofChar? ch.toLower with
    | none => none
    | some l =>
      if r = [] ∨ '\n' ∈ r then none
      else
        match splitTarget? (Text.skipGap r) with
        | some (target, rest) =>
          some ⟨l.toChar, String.ofList (Text.trim rest), PageId.parse? (String.ofList target)⟩
        | none => some ⟨l.toChar, String.ofList (Text.trim r), none⟩
  | _ => none

/-- The line that offers a choice. -/
def toLine (c : Choice) : Text :=
  match c.goto with
  | some target => c.letter :: ')' :: ' ' :: '[' :: target.toText ++ ']' :: ' ' :: c.text.toList
  | none => c.letter :: ')' :: ' ' :: c.text.toList

/-- Adds a choice behind others unless one of them has its letter. -/
def addNew (cs : List Choice) (c : Choice) : List Choice :=
  if cs.any fun d => d.letter == c.letter then cs else cs ++ [c]

/-- The choices that a text offers, the first of each letter, and the text without their lines. -/
def split (t : Text) : List Choice × Text :=
  let ls := Text.lines (Text.unixLines t)
  let offered (l : Text) : Option Choice := ofLine? (Text.dropLineFeed l)
  ((ls.filterMap offered).foldl addNew [], (ls.filter fun l => (offered l).isNone).flatten)

end Gamebook.Choice

/-- The page of a written text: the choices are those that its lines offer. -/
def Gamebook.Page.ofSource (content : String) : Gamebook.Page :=
  let (choices, _) := Gamebook.Choice.split content.toList
  ⟨content, !choices.isEmpty, false, choices⟩
