import Gamebook.Value.Basic

/-!
# Tests on variables

A test compares a variable with a value. A variable that is not set counts as the truth value false
for `==`, differs from everything, and has no order. Set ones are compared as values of one type;
only numbers have an order.
-/

namespace Gamebook

/-- The comparisons. -/
inductive Comparison where
  | eq | ne | gt | lt | ge | le
deriving DecidableEq, Repr, Inhabited

namespace Comparison

/-- The comparisons, in the order in which they are told apart in a token: a sign that starts
another stands after it. -/
def all : List Comparison := [eq, ne, ge, le, gt, lt]

/-- The written sign. -/
def sign : Comparison → String
  | eq => "=="
  | ne => "!="
  | gt => ">"
  | lt => "<"
  | ge => ">="
  | le => "<="

/-- The comparison with exactly this sign. -/
def ofSign? (s : String) : Option Comparison := all.find? fun op => op.sign == s

/-- Whether an order of two numbers satisfies the comparison. -/
def holdsFor (op : Comparison) (x y : Float) : Bool :=
  match op with
  | eq => x == y
  | ne => !(x == y)
  | gt => y < x
  | lt => x < y
  | ge => y ≤ x
  | le => x ≤ y

end Comparison

/-- A test on a variable. -/
structure Test where
  name : String
  operator : Comparison
  operand : Value
deriving DecidableEq, Inhabited

namespace Test

/-- Whether a variable's value, if it has one, passes. -/
def passes (op : Comparison) (operand : Value) : Option Value → Bool
  | none =>
    match op with
    | .eq => Value.same operand (.bool false)
    | .ne => true
    | _ => false
  | some v =>
    match op with
    | .eq => v.same operand
    | .ne => !v.same operand
    | _ =>
      match v, operand with
      | .number x, .number y => op.holdsFor x y
      | _, _ => false

/-- Whether the test holds of the variables. -/
def holds (t : Test) (vars : Variables) : Bool := passes t.operator t.operand (vars.get? t.name)

end Test
end Gamebook
