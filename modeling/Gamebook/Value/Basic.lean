import Gamebook.Decimal.Layout
import Gamebook.Decimal.Literal
import Gamebook.SortedMap

/-!
# Values and variables

A story's variables hold truth values, numbers and texts. What an author writes for a value is typed
by its look: `true` and `false`, then what reads as a finite number, then text.
-/

namespace Gamebook

/-- What a variable can hold. -/
inductive Value where
  | bool (b : Bool)
  | number (x : Float)
  | string (s : String)
deriving DecidableEq, Inhabited

/-- The variables of a reader, by name. -/
abbrev Variables := SortedMap String Value

namespace Value

/-- The value that a literal in a story stands for. -/
def ofLiteral (raw : Text) : Value :=
  let t := Text.trim raw
  if t = "true".toList then bool true
  else if t = "false".toList then bool false
  else
    match Decimal.finiteLiteral? t with
    | some x => number x
    | none => string (String.ofList t)

/-- The number, if it is one. -/
def number? : Value → Option Float
  | number x => some x
  | _ => none

/-- The truth value, if it is one. -/
def bool? : Value → Option Bool
  | bool b => some b
  | _ => none

/-- The name of a value's type. -/
def typeName : Value → String
  | bool _ => "boolean"
  | number _ => "number"
  | string _ => "string"

/-- A number for a reader: no exponent, and zero without a sign. -/
def numberText (x : Float) : Text :=
  if x == 0 then ['0'] else Decimal.Layout.plain.write x

/-- The text of a value. -/
def display : Value → Text
  | bool b => (if b then "true" else "false").toList
  | number x => numberText x
  | string s => s.toList

/-- Whether two values are of one type and equal; numbers are compared as numbers, so that the two
zeros are equal. -/
def same : Value → Value → Bool
  | bool a, bool b => a == b
  | number x, number y => x == y
  | string s, string t => s == t
  | _, _ => false

end Value
end Gamebook
