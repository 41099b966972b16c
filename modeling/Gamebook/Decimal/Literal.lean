import Gamebook.Decimal.Shortest
import Gamebook.Text.Caseless

/-!
# Decimal literals

A literal is an optional sign and either one of the words `inf`, `infinity`, `nan` in any case, or
digits with an optional point (a digit must stand on one side of it) and an optional exponent. It
denotes the floating-point number nearest to it, the even one of two equally near.
-/

namespace Gamebook.Decimal

/-- The value of a run of digits. -/
def ofDigits (ds : Text) : Nat := ds.foldl (fun n d => 10 * n + (d.toNat - '0'.toNat)) 0

/-- The infinite number. -/
def infinity : Float := Float.ofBits 0x7FF0000000000000

/-- The number nearest to `m * 10 ^ e`. Beyond the range of the format the answer is known from the
number of digits alone. -/
def nearest (m : Nat) (e : Int) : Float :=
  let top := ((digits m).length : Int) + e
  if m = 0 || top < -400 then 0
  else if 400 < top then infinity
  else Float.ofScientific m (e < 0) e.natAbs

/-- Splits a run of digits off the front. -/
def splitDigits (t : Text) : Text × Text := (t.takeWhile Char.isDigit, t.dropWhile Char.isDigit)

/-- Splits an optional sign off the front; true for a minus. -/
def splitSign (t : Text) : Bool × Text :=
  match t with
  | '-' :: r => (true, r)
  | '+' :: r => (false, r)
  | _ => (false, t)

/-- The exponent that is the whole of `t`: nothing, or `e` in either case and a signed number. -/
def exponent? (t : Text) : Option Int :=
  match t with
  | [] => some 0
  | c :: r =>
    if c = 'e' ∨ c = 'E' then
      let (negative, r) := splitSign r
      if r ≠ [] ∧ r.all Char.isDigit then
        some (if negative then -(ofDigits r : Int) else ofDigits r)
      else none
    else none

/-- The unsigned number that is the whole of `t`. -/
def unsigned? (t : Text) : Option Float :=
  if Text.lower t ∈ ["inf".toList, "infinity".toList] then some infinity
  else if Text.lower t = "nan".toList then some (Float.ofBits 0x7FF8000000000000)
  else
    let (whole, r) := splitDigits t
    let (fraction, r) := match r with
      | '.' :: r => splitDigits r
      | _ => ([], r)
    if whole = [] ∧ fraction = [] then none
    else (exponent? r).map fun e => nearest (ofDigits (whole ++ fraction)) (e - fraction.length)

/-- The number that a literal denotes. -/
def literal? (t : Text) : Option Float :=
  let (negative, r) := splitSign t
  (unsigned? r).map fun x => if negative then -x else x

/-- The number that a literal denotes, unless it is infinite or no number. -/
def finiteLiteral? (t : Text) : Option Float := (literal? t).filter isFinite

end Gamebook.Decimal
