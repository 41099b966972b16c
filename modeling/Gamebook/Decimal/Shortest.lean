import Gamebook.Text.Basic

/-!
# The fewest digits that read back

A binary floating-point number is read off its bits as a significand times a power of two. The reals
that round to it form an interval around it, whose ends belong to it when the significand is even.
`shortest` looks for the coarsest decimal grid with a point in that interval, in exact arithmetic,
and takes the point nearest to the number. Which of two equally near points that is, is for the
number format to say.
-/

namespace Gamebook.Decimal

/-- A floating-point number without its sign: zero, `significand * 2 ^ exponent` with a positive
significand, infinity, or no number at all. -/
inductive Magnitude where
  | zero
  | finite (significand : Nat) (exponent : Int)
  | infinite
  | notANumber
deriving DecidableEq, Repr

/-- The magnitude of a number in the 64-bit binary format. -/
def magnitude (x : Float) : Magnitude :=
  let bits := x.toBits.toNat
  let exponent : Nat := bits / Nat.pow 2 52 % Nat.pow 2 11
  let fraction : Nat := bits % Nat.pow 2 52
  if exponent = 0x7FF then if fraction = 0 then .infinite else .notANumber
  else if exponent = 0 then if fraction = 0 then .zero else .finite fraction (-1074)
  else .finite (Nat.pow 2 52 + fraction) ((exponent : Int) - 1075)

/-- Whether the sign bit is set. -/
def isNegative (x : Float) : Bool := x.toBits.toNat / Nat.pow 2 63 = 1

/-- Whether a number is neither infinite nor no number. -/
def isFinite (x : Float) : Bool :=
  match magnitude x with
  | .zero | .finite _ _ => true
  | .infinite | .notANumber => false

/-- The digits of a natural number. -/
def digits (n : Nat) : Text := Nat.toDigits 10 n

/-- The integer `p` with `10 ^ p ≤ num / den < 10 ^ (p + 1)`, for positive `num` and `den`. -/
def leadingPower (num den : Nat) : Int :=
  if den ≤ num then ((digits (num / den)).length : Int) - 1
  else
    let places := (digits (den / num)).length - 1
    if den ≤ num * Nat.pow 10 places then -(places : Int) else -(places : Int) - 1

/-- Which of two equally near grid points is taken. -/
inductive Tie where
  | even
  | up
deriving DecidableEq, Repr

/-- The grid point taken of `below` and the one above it. -/
def Tie.choose (tie : Tie) (below : Nat) : Nat :=
  match tie with
  | .even => if below % 2 = 0 then below else below + 1
  | .up => below + 1

/-- The reals that round to a number, and the number itself, over one denominator. -/
structure Interval where
  value : Nat
  low : Nat
  high : Nat
  unit : Nat
  closed : Bool

namespace Interval

/-- The interval around `m * 2 ^ q`. A power of two above the least exponent is half as far from
its lower neighbour as from its upper one. -/
def around (m : Nat) (q : Int) : Interval :=
  let gapBelow := if m = Nat.pow 2 52 ∧ q ≠ -1074 then 1 else 2
  let up := Nat.pow 2 (q - 2).toNat
  ⟨4 * m * up, (4 * m - gapBelow) * up, (4 * m + 2) * up, Nat.pow 2 (2 - q).toNat, m % 2 = 0⟩

/-- The interval measured in units of `10 ^ k`. -/
def onGrid (i : Interval) (k : Int) : Interval :=
  let shift := Nat.pow 10 (-k).toNat
  ⟨i.value * shift, i.low * shift, i.high * shift, i.unit * Nat.pow 10 k.toNat, i.closed⟩

/-- Whether the `n`-th multiple of the unit lies in the interval. -/
def holds (i : Interval) (n : Nat) : Bool :=
  let x := n * i.unit
  if i.closed then i.low ≤ x && x ≤ i.high else i.low < x && x < i.high

/-- The grid point in the interval that is nearest to the number, if the interval holds one. -/
def nearest? (i : Interval) (tie : Tie) : Option Nat :=
  let below := i.value / i.unit
  let above := below + 1
  match i.holds below, i.holds above with
  | false, false => none
  | true, false => some below
  | false, true => some above
  | true, true =>
    match compare (i.value - below * i.unit) (above * i.unit - i.value) with
    | .lt => some below
    | .gt => some above
    | .eq => some (tie.choose below)

end Interval

/-- The digits, without zeros at the end, and the power of ten of the first of them, of the
shortest decimal that reads back as `m * 2 ^ q`. Seventeen digits always do. -/
def shortest (tie : Tie) (m : Nat) (q : Int) : Text × Int :=
  let i := Interval.around m q
  let p := leadingPower i.value i.unit
  let candidate (n : Nat) : Option (Nat × Int) :=
    ((i.onGrid (p - n)).nearest? tie).map fun c => (c, p - n)
  let (c, k) := ((List.range 17).findSome? candidate).getD (0, 0)
  let ds := digits c
  (Text.dropEndWhile (· == '0') ds, k + ds.length - 1)

end Gamebook.Decimal
