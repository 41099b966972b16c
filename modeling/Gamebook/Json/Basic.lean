import Gamebook.Decimal.Literal

/-!
# Data values

The values of a data file. Objects keep the order of their fields and any repetition among them,
because whether a repeated field is an error depends on who reads it. A value whose form is right
but which nothing can hold, a number out of range or a text with half a surrogate pair, is
`malformed`: it may stand where it is skipped, and is refused where it is read.
-/

namespace Gamebook

/-- A number of a data file: whole, or a floating-point number. -/
inductive Json.Number where
  | whole (n : Int)
  | float (x : Float)
deriving DecidableEq

/-- A value of a data file. -/
inductive Json where
  | null
  | bool (b : Bool)
  | number (n : Json.Number)
  | string (s : String)
  | array (items : List Json)
  | object (fields : List (String × Json))
  | malformed

namespace Json

instance : Inhabited Json := ⟨.null⟩

/-- A whole number. -/
def nat (n : Nat) : Json := .number (.whole n)

/-- A floating-point number; what is not finite has no form in a data file and is written `null`. -/
def float (x : Float) : Json := if Decimal.isFinite x then .number (.float x) else .null

/-- An object of the fields that are present. -/
def ofFields (fields : List (String × Option Json)) : Json :=
  .object (fields.filterMap fun (k, v) => v.map (k, ·))

mutual
/-- How many arrays and objects are nested in one another. -/
def depth : Json → Nat
  | .array items => itemsDepth items + 1
  | .object fields => fieldsDepth fields + 1
  | _ => 0
/-- The greatest depth among items. -/
def itemsDepth : List Json → Nat
  | [] => 0
  | v :: vs => max (depth v) (itemsDepth vs)
/-- The greatest depth among fields. -/
def fieldsDepth : List (String × Json) → Nat
  | [] => 0
  | (_, v) :: fs => max (depth v) (fieldsDepth fs)
end

end Json
end Gamebook
