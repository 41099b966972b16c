import Gamebook.Html.Names
import Gamebook.Text.Replace

/-!
# Character references

An ampersand may start a reference by number or by name. In a document the semicolon may be missing
behind a number and behind some names, and numbers without a character stand for the replacement
character; `decode` reads references the strict way, in which anything else stays as it is, and for
one character each.
-/

namespace Gamebook.Html.Reference

/-- The character that stands for what has none. -/
def replacement : Char := '\ufffd'

/-- The characters that the numbers from 128 to 159 stand for; zero leaves the number as it is. -/
def highControls : List Nat :=
  [0x20AC, 0, 0x201A, 0x192, 0x201E, 0x2026, 0x2020, 0x2021, 0x2C6, 0x2030, 0x160, 0x2039, 0x152, 0,
   0x17D, 0, 0, 0x2018, 0x2019, 0x201C, 0x201D, 0x2022, 0x2013, 0x2014, 0x2DC, 0x2122, 0x161,
   0x203A, 0x153, 0, 0x17E, 0x178]

/-- Whether a number is a character: in range, and no surrogate. -/
def isCharacter (n : Nat) : Bool := n < 0xD800 || (0xDFFF < n && n ≤ 0x10FFFF)

/-- The character that a number stands for in a document. -/
def ofNumber (n : Nat) : Char :=
  if n = 0 ∨ ¬isCharacter n then replacement
  else if 0x80 ≤ n ∧ n < 0xA0 then
    match highControls[n - 0x80]? with
    | none | some 0 => Char.ofNat n
    | some m => Char.ofNat m
  else Char.ofNat n

/-- The number that digits of a base denote. -/
def numberOf (base : Nat) (ds : Text) : Nat :=
  ds.foldl (fun n c => base * n + (Text.hexDigit? c).getD 0) 0

/-- The number of a reference that starts behind `#`, and the text after its digits. -/
def number? (t : Text) : Option (Nat × Text) :=
  let isHex (c : Char) : Bool := (Text.hexDigit? c).isSome
  let (base, ds, rest) := match t with
    | c :: r =>
      if c = 'x' ∨ c = 'X' then (16, r.takeWhile isHex, r.dropWhile isHex)
      else (10, t.takeWhile Char.isDigit, t.dropWhile Char.isDigit)
    | [] => (10, [], [])
  if ds = [] then none else some (numberOf base ds, rest)

/-- Drops a semicolon. -/
def dropSemicolon (t : Text) : Text :=
  match t with
  | ';' :: r => r
  | t => t

/-- What the reference behind an ampersand stands for, and the text after it. In an attribute value
a name without a semicolon counts only where no equals sign, letter or digit follows. -/
def read? (inAttribute : Bool) (t : Text) : Option (Text × Text) :=
  match t with
  | '#' :: r => (number? r).map fun (n, rest) => ([ofNumber n], dropSemicolon rest)
  | t =>
    let name := t.takeWhile Char.isAlphanum
    match t.drop name.length, ofName? name with
    | ';' :: rest, some value => some (value, rest)
    | _, _ =>
      match barePrefix? t with
      | none => none
      | some bare =>
        let rest := t.drop bare.length
        if inAttribute ∧ rest.head?.any fun c => c == '=' || c.isAlphanum then none
        else (ofName? bare).map (·, rest)

/-- The text of an attribute value or of a text element, its references replaced. -/
def resolve (inAttribute : Bool) (t : Text) : Text :=
  Text.replaceMatches
    (fun _ t =>
      match t with
      | '&' :: r => read? inAttribute r
      | _ => none)
    t

/-- Whether a number is that of a character that may stand in a document: below the space only the
blanks may. -/
def isDocumentCharacter (n : Nat) : Bool :=
  isCharacter n && (0x20 ≤ n || [0x9, 0xA, 0xC, 0xD].contains n)

/-- What the complete reference behind an ampersand stands for, and the text after it. Of a name for
several characters the first counts. -/
def readStrict? (t : Text) : Option (Text × Text) :=
  match t with
  | '#' :: r =>
    match number? r with
    | some (n, ';' :: rest) => if isDocumentCharacter n then some ([Char.ofNat n], rest) else none
    | _ => none
  | t =>
    let name := t.takeWhile Char.isAlphanum
    match t.drop name.length with
    | ';' :: rest => (ofName? name).map fun value => (value.take 1, rest)
    | _ => none

/-- The text with its complete references replaced. -/
def decode (t : Text) : Text :=
  Text.replaceMatches
    (fun _ t =>
      match t with
      | '&' :: r => readStrict? r
      | _ => none)
    t

end Gamebook.Html.Reference
