import Gamebook.Decimal.Shortest

/-!
# How a decimal is written

The two number formats of the library take their digits from `shortest` and differ in a record:
plain text, which never has an exponent and leaves whole numbers without a point, and the number of
a data file, which marks whole numbers with `.0` and takes an exponent for the very small and very
large. They also differ in how a tie between two shortest decimals goes.
-/

namespace Gamebook.Decimal

/-- The decisions of a number format. -/
structure Layout where
  /-- The powers of ten of the first digit, from the first up to but not including the second, that
  are written without an exponent; `none` for all of them. -/
  positional : Option (Int × Int)
  /-- What follows the digits of a whole number written without an exponent. -/
  whole : Text
  /-- Which of two equally near shortest decimals is written. -/
  tie : Tie

namespace Layout

/-- Whole numbers bare, no exponent ever, ties away from zero. -/
def plain : Layout := ⟨none, [], .up⟩

/-- Whole numbers with `.0`, an exponent below `0.00001` and from `10 ^ 16`, ties to the even digit.
-/
def data : Layout := ⟨some (-5, 16), ".0".toList, .even⟩

/-- Whether a number whose first digit stands for `10 ^ p` is written without an exponent. -/
def isPositional (l : Layout) (p : Int) : Bool :=
  match l.positional with
  | none => true
  | some (from', below) => from' ≤ p && p < below

/-- Writes digits of which the first stands for `10 ^ p`. -/
def writeDigits (l : Layout) (ds : Text) (p : Int) : Text :=
  if l.isPositional p then
    if p < 0 then "0.".toList ++ List.replicate (-p - 1).toNat '0' ++ ds
    else
      let places := p.toNat + 1
      if ds.length ≤ places then ds ++ List.replicate (places - ds.length) '0' ++ l.whole
      else ds.take places ++ '.' :: ds.drop places
  else
    let mantissa := match ds with
      | [] => []
      | [d] => [d]
      | d :: rest => d :: '.' :: rest
    mantissa ++ 'e' :: (if p < 0 then '-' else '+') :: digits p.natAbs

/-- Writes a number; the sign of zero is kept. -/
def write (l : Layout) (x : Float) : Text :=
  let sign := if isNegative x then ['-'] else []
  match magnitude x with
  | .zero => sign ++ '0' :: l.whole
  | .finite m q => let (ds, p) := shortest l.tie m q; sign ++ l.writeDigits ds p
  | .infinite => sign ++ "inf".toList
  | .notANumber => "NaN".toList

end Layout
end Gamebook.Decimal
