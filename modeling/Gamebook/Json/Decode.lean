import Gamebook.Json.Basic

/-!
# Reading records

A record is an object with its fields in any order, unknown ones skipped and known ones at most
once, or an array of its fields in the order of their declaration. A tagged record says which kind
it is in a field `kind`, or in the first item.
-/

namespace Gamebook.Json

/-- The text of a string. -/
def string? : Json → Option String
  | .string s => some s
  | _ => none

/-- The truth value. -/
def bool? : Json → Option Bool
  | .bool b => some b
  | _ => none

/-- The floating-point number nearest to a number. -/
def float? : Json → Option Float
  | .number (.whole n) =>
    let x := Decimal.nearest n.natAbs 0
    some (if n < 0 then -x else x)
  | .number (.float x) => some x
  | _ => none

/-- A whole number that is not negative and fits in some bits. -/
def natOfBits? (bits : Nat) : Json → Option Nat
  | .number (.whole n) => if 0 ≤ n ∧ n < Nat.pow 2 bits then some n.toNat else none
  | _ => none

/-- The character of a string of one character. -/
def char? : Json → Option Char
  | .string s =>
    match s.toList with
    | [c] => some c
    | _ => none
  | _ => none

/-- The items of an array. -/
def list? {α : Type} (item? : Json → Option α) : Json → Option (List α)
  | .array items => items.mapM item?
  | _ => none

/-- A value that may be `null`. -/
def nullable? {α : Type} (decode : Json → Option α) : Json → Option (Option α)
  | .null => some none
  | v => (decode v).map some

/-- A word of a closed list: a string, or an object of one field with no value. -/
def word? : Json → Option String
  | .string s => some s
  | .object [(s, .null)] => some s
  | _ => none

/-- The word of a closed list that `find` knows. -/
def wordIn? {α : Type} (find : String → Option α) (v : Json) : Option α := (word? v).bind find

/-- The word of a closed list, in a value that is held as a whole: the field may also have an empty
object for its value. -/
def heldWord? : Json → Option String
  | .object [(s, .object [])] => some s
  | v => word? v

/-- The word of a closed list that `find` knows, in a value that is held as a whole. -/
def heldWordIn? {α : Type} (find : String → Option α) (v : Json) : Option α :=
  (heldWord? v).bind find

/-- The fields of a record, and whether they were given by position. -/
structure Record where
  fields : List (String × Json)
  positional : Bool

/-- The record of fields with the given names. -/
def record? (names : List String) : Json → Option Record
  | .object fields =>
    let known := fields.filter fun f => f.1 ∈ names
    if (known.map (·.1)).Nodup then some ⟨known, false⟩ else none
  | .array items => if items.length ≤ names.length then some ⟨names.zip items, true⟩ else none
  | _ => none

namespace Record

/-- The value of a field. -/
def get? (r : Record) (name : String) : Option Json := r.fields.lookup name

/-- A field that must be there. -/
def required? {α : Type} (r : Record) (name : String) (decode : Json → Option α) : Option α :=
  (r.get? name).bind decode

/-- A field that has a value of its own when it is not there. -/
def orElse? {α : Type} (r : Record) (name : String) (decode : Json → Option α) (absent : α) :
    Option α :=
  match r.get? name with
  | some v => decode v
  | none => some absent

/-- A field that may be missing or `null`, but must have its place among fields by position. -/
def nullable? {α : Type} (r : Record) (name : String) (decode : Json → Option α) :
    Option (Option α) :=
  match r.get? name with
  | some v => Json.nullable? decode v
  | none => if r.positional then none else some none

end Record

mutual
/-- Whether a value can be held, with all that is in it. -/
def isSound : Json → Bool
  | .malformed => false
  | .array items => areSound items
  | .object fields => fieldsAreSound fields
  | _ => true
/-- Whether all items can be held. -/
def areSound : List Json → Bool
  | [] => true
  | v :: vs => isSound v && areSound vs
/-- Whether the values of all fields can be held. -/
def fieldsAreSound : List (String × Json) → Bool
  | [] => true
  | (_, v) :: fs => isSound v && fieldsAreSound fs
end

/-- The deepest nesting that is held in memory as a whole. -/
def maxDepth : Nat := 127

/-- Whether a value that stands inside `level` others can be held in memory as a whole. -/
def isHeld (level : Nat) (v : Json) : Bool := v.isSound && v.depth + level ≤ maxDepth

/-- The kind of a tagged record and the rest of it. The record stands inside `level` others. -/
def tagged? (level : Nat) (v : Json) : Option (Json × Json) :=
  if ¬v.isHeld level then none
  else
    match v with
    | .object fields =>
      match fields.filter fun f => f.1 = "kind" with
      | [(_, tag)] => some (tag, .object (fields.filter fun f => f.1 ≠ "kind"))
      | _ => none
    | .array (tag :: items) => some (tag, .array items)
    | _ => none

/-- The kind that a tag names; inside a value that is held as a whole also by its number. -/
def kind? {α : Type} (inside : Bool) (kinds : List (String × α)) : Json → Option α
  | .string s => kinds.lookup s
  | .number (.whole n) =>
    if inside ∧ 0 ≤ n then (kinds[n.toNat]?).map (·.2) else none
  | _ => none

/-- The rest of a tagged record that has no fields. -/
def noFields? : Json → Option Unit
  | .object _ => some ()
  | .array [] => some ()
  | _ => none

end Gamebook.Json
