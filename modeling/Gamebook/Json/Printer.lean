import Gamebook.Decimal.Layout
import Gamebook.Json.Basic

/-!
# Writing a data file

Two forms: compact, with no blanks at all, and indented by two spaces a level. Of a string only the
quotation mark, the backslash and the control characters below the space are escaped.
-/

namespace Gamebook.Json

/-- A hexadecimal digit, in lower case. -/
def hexDigit (n : Nat) : Char := Nat.digitChar (n % 16)

/-- A character inside a string. -/
def escape (c : Char) : Text :=
  if c = '"' then ['\\', '"']
  else if c = '\\' then ['\\', '\\']
  else if c = '\n' then ['\\', 'n']
  else if c = '\r' then ['\\', 'r']
  else if c = '\t' then ['\\', 't']
  else if c = '\x08' then ['\\', 'b']
  else if c = '\x0c' then ['\\', 'f']
  else if c.toNat < 0x20 then
    ['\\', 'u', '0', '0', hexDigit (c.toNat / 16), hexDigit c.toNat]
  else [c]

/-- A string in quotation marks. -/
def quote (t : Text) : Text := '"' :: t.flatMap escape ++ ['"']

/-- A number. -/
def Number.write : Number → Text
  | .whole n => if n < 0 then '-' :: Decimal.digits n.natAbs else Decimal.digits n.natAbs
  | .float x => Decimal.Layout.data.write x

mutual
/-- The compact form. -/
def write : Json → Text
  | .null => "null".toList
  | .bool b => (if b then "true" else "false").toList
  | .number n => n.write
  | .string s => quote s.toList
  | .array items => '[' :: writeItems items ++ [']']
  | .object fields => '\x7b' :: writeFields fields ++ ['\x7d']
  | .malformed => "null".toList
/-- Items with commas between them. -/
def writeItems : List Json → Text
  | [] => []
  | [v] => write v
  | v :: vs => write v ++ ',' :: writeItems vs
/-- Fields with commas between them. -/
def writeFields : List (String × Json) → Text
  | [] => []
  | [(k, v)] => quote k.toList ++ ':' :: write v
  | (k, v) :: fs => quote k.toList ++ ':' :: write v ++ ',' :: writeFields fs
end

/-- The start of a line at a level of the indented form. -/
def indentation (level : Nat) : Text := '\n' :: List.replicate (2 * level) ' '

mutual
/-- The indented form at a level; what is empty stays on one line. -/
def writeIndented (level : Nat) : Json → Text
  | .array [] => ['[', ']']
  | .object [] => ['\x7b', '\x7d']
  | .array items =>
    '[' :: writeIndentedItems (level + 1) items ++ indentation level ++ [']']
  | .object fields =>
    '\x7b' :: writeIndentedFields (level + 1) fields ++ indentation level ++ ['\x7d']
  | v => write v
/-- Items, each on a line of its own. -/
def writeIndentedItems (level : Nat) : List Json → Text
  | [] => []
  | [v] => indentation level ++ writeIndented level v
  | v :: vs => indentation level ++ writeIndented level v ++ ',' :: writeIndentedItems level vs
/-- Fields, each on a line of its own. -/
def writeIndentedFields (level : Nat) : List (String × Json) → Text
  | [] => []
  | [(k, v)] => indentation level ++ quote k.toList ++ ':' :: ' ' :: writeIndented level v
  | (k, v) :: fs =>
    indentation level ++ quote k.toList ++ ':' :: ' ' :: writeIndented level v
      ++ ',' :: writeIndentedFields level fs
end

/-- The compact form. -/
def compact (v : Json) : String := String.ofList (write v)

/-- The indented form. -/
def pretty (v : Json) : String := String.ofList (writeIndented 0 v)

end Gamebook.Json
