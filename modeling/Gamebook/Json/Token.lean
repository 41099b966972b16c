import Gamebook.Json.Basic

/-!
# Tokens of a data file

A lexer with one state per kind of unfinished token reads the characters one by one. Strings and
numbers are collected first and then given their meaning by `ofInside?` and `ofLexeme?`.
-/

namespace Gamebook.Json

/-- A token: punctuation, or a value that is not made of other values. -/
inductive Token where
  | openArray
  | closeArray
  | openObject
  | closeObject
  | comma
  | colon
  | scalar (v : Json)

/-- The value of four hexadecimal digits. -/
def hexUnit? (a b c d : Char) : Option Nat := do
  let high := (← Text.hexDigit? a) * 16 + (← Text.hexDigit? b)
  some ((high * 16 + (← Text.hexDigit? c)) * 16 + (← Text.hexDigit? d))

/-- The character that a one-letter escape stands for. -/
def escaped? (c : Char) : Option Char :=
  match c with
  | '"' => some '"'
  | '\\' => some '\\'
  | '/' => some '/'
  | 'b' => some '\x08'
  | 'f' => some '\x0c'
  | 'n' => some '\n'
  | 'r' => some '\r'
  | 't' => some '\t'
  | _ => none

/-- What a run of string characters says; `sound` is false when a surrogate stands alone in it. -/
structure Decoded where
  text : Text
  sound : Bool

/-- Reads the escapes of a string's inside. `none` means that an escape has no meaning; a surrogate
without its partner leaves the text unsound. -/
def unescape? : Text → Option Decoded
  | [] => some ⟨[], true⟩
  | '\\' :: 'u' :: a :: b :: c :: d :: '\\' :: 'u' :: e :: f :: g :: h :: r =>
    match hexUnit? a b c d with
    | none => none
    | some hi =>
      if 0xD800 ≤ hi ∧ hi < 0xDC00 then
        match hexUnit? e f g h with
        | none => none
        | some lo =>
          if 0xDC00 ≤ lo ∧ lo < 0xE000 then
            let point := 0x10000 + (hi - 0xD800) * 0x400 + (lo - 0xDC00)
            (unescape? r).map fun s => ⟨Char.ofNat point :: s.text, s.sound⟩
          else (unescape? ('\\' :: 'u' :: e :: f :: g :: h :: r)).map fun s => ⟨s.text, false⟩
      else
        (unescape? ('\\' :: 'u' :: e :: f :: g :: h :: r)).map fun s =>
          if 0xDC00 ≤ hi ∧ hi < 0xE000 then ⟨s.text, false⟩
          else ⟨Char.ofNat hi :: s.text, s.sound⟩
  | '\\' :: 'u' :: a :: b :: c :: d :: r =>
    match hexUnit? a b c d with
    | none => none
    | some u =>
      (unescape? r).map fun s =>
        if 0xD800 ≤ u ∧ u < 0xE000 then ⟨s.text, false⟩ else ⟨Char.ofNat u :: s.text, s.sound⟩
  | '\\' :: c :: r =>
    match escaped? c with
    | none => none
    | some x => (unescape? r).map fun s => ⟨x :: s.text, s.sound⟩
  | c :: r => if c = '\\' then none else (unescape? r).map fun s => ⟨c :: s.text, s.sound⟩

/-- The value of a string's inside. -/
def ofInside? (inside : Text) : Option Json :=
  (unescape? inside).map fun s => if s.sound then .string (String.ofList s.text) else .malformed

/-- The power of ten as a floating-point number. -/
def powerOfTen (n : Nat) : Float := Decimal.nearest 1 n

/-- A significand divided by a power of ten, in steps that the format can hold. Four steps take the
greatest significand of 64 bits to zero. -/
def scaleDown (x : Float) (places : Nat) : Nat → Float
  | 0 => 0
  | steps + 1 =>
    if places ≤ 308 then x / powerOfTen places
    else if x == 0 then x
    else scaleDown (x / powerOfTen 308) (places - 308) steps

/-- A significand scaled by a power of ten in floating point: one rounding for the significand and
one for each scaling. `none` when the result is out of range. -/
def scale? (significand : Nat) (e : Int) : Option Float :=
  let x := Decimal.nearest significand 0
  if e < 0 then some (scaleDown x e.natAbs 4)
  else if e ≤ 308 then (some (x * powerOfTen e.toNat)).filter Decimal.isFinite
  else if significand = 0 then some x
  else none

/-- The leading digits whose value fits 64 bits, and the digits after them. -/
def significand (n : Nat) : Text → Nat × Text
  | [] => (n, [])
  | d :: ds =>
    let m := 10 * n + (d.toNat - '0'.toNat)
    if m < Nat.pow 2 64 then significand m ds else (n, d :: ds)

/-- The value of a number in its written form, cut into sign, digits before the point, digits after
it and exponent. Digits beyond the range of 64 bits count only by their number. -/
def numberOfParts (negative : Bool) (whole : Text) (fraction : Text) (hasFraction : Bool)
    (exponent : Option Int) : Json :=
  let (n, rest) := significand 0 whole
  if rest = [] ∧ ¬hasFraction ∧ exponent = none ∧ ¬(negative ∧ (n = 0 ∨ Nat.pow 2 63 < n)) then
    .number (.whole (if negative then -n else n))
  else
    let (n, left) := significand n fraction
    let e := (rest.length : Int) - (fraction.length - left.length : Nat) + exponent.getD 0
    match scale? n e with
    | none => .malformed
    | some x => .number (.float (if negative then -x else x))

/-- Splits a point and the digits behind it off the front; false without a point. -/
def splitFraction (t : Text) : Text × Bool × Text :=
  match t with
  | '.' :: r => let (ds, r) := Decimal.splitDigits r; (ds, true, r)
  | _ => ([], false, t)

/-- The value of a number's written form behind its sign: no zero in front of other digits, a digit on
both sides of the point, and a digit in the exponent. -/
def ofUnsigned? (negative : Bool) (t : Text) : Option Json :=
  let (whole, t) := Decimal.splitDigits t
  if whole = [] ∨ (whole.head? = some '0' ∧ whole ≠ ['0']) then none
  else
    let (fraction, hasFraction, t) := splitFraction t
    if hasFraction ∧ fraction = [] then none
    else if t = [] then some (numberOfParts negative whole fraction hasFraction none)
    else (Decimal.exponent? t).map fun e =>
      numberOfParts negative whole fraction hasFraction (some e)

/-- The value of a number's written form, which has a minus for its only sign. -/
def ofLexeme? (t : Text) : Option Json :=
  match t with
  | '-' :: r => ofUnsigned? true r
  | _ => ofUnsigned? false t

/-- What the lexer is in the middle of. Collected characters are newest first. -/
inductive Lexer where
  | between
  | word (read : Text)
  | number (read : Text)
  | string (read : Text) (afterBackslash : Bool)

namespace Lexer

/-- The characters that end the token they do not belong to. -/
def isSpace (c : Char) : Bool := c == ' ' || c == '\n' || c == '\t' || c == '\r'

/-- The characters of which numbers are made. -/
def isNumeric (c : Char) : Bool := c.isDigit || c ∈ ['-', '+', '.', 'e', 'E']

/-- The value of a word. -/
def word? (t : Text) : Option Json :=
  if t = "null".toList then some .null
  else if t = "true".toList then some (.bool true)
  else if t = "false".toList then some (.bool false)
  else none

/-- Begins a token at a character. -/
def begin (c : Char) : Option (List Token × Lexer) :=
  if isSpace c then some ([], between)
  else if c = '"' then some ([], string [] false)
  else if c = '-' ∨ c.isDigit then some ([], number [c])
  else if c.isLower then some ([], word [c])
  else
    match c with
    | '[' => some ([.openArray], between)
    | ']' => some ([.closeArray], between)
    | '\x7b' => some ([.openObject], between)
    | '\x7d' => some ([.closeObject], between)
    | ',' => some ([.comma], between)
    | ':' => some ([.colon], between)
    | _ => none

/-- The token that an unfinished one becomes when it ends here. -/
def finish : Lexer → Option (List Token)
  | between => some []
  | word read => (word? read.reverse).map fun v => [.scalar v]
  | number read => (ofLexeme? read.reverse).map fun v => [.scalar v]
  | string _ _ => none

/-- Reads one character. -/
def step (s : Lexer) (c : Char) : Option (List Token × Lexer) :=
  match s with
  | between => begin c
  | word read =>
    if c.isLower then some ([], word (c :: read))
    else do
      let (ts, next) ← begin c
      some ((← finish s) ++ ts, next)
  | number read =>
    if isNumeric c then some ([], number (c :: read))
    else do
      let (ts, next) ← begin c
      some ((← finish s) ++ ts, next)
  | string read true => if c.toNat < 0x20 then none else some ([], string (c :: read) false)
  | string read false =>
    if c = '"' then (ofInside? read.reverse).map fun v => ([.scalar v], between)
    else if c.toNat < 0x20 then none
    else some ([], string (c :: read) (c == '\\'))

end Lexer

/-- The tokens of a text. -/
def tokens? (t : Text) : Option (List Token) :=
  let run := t.foldl (fun (st : Option (List Token × Lexer)) c => do
    let (read, s) ← st
    let (ts, s) ← s.step c
    some (ts.reverse ++ read, s)) (some ([], .between))
  run.bind fun (read, s) => s.finish.map fun ts => read.reverse ++ ts

end Gamebook.Json
