/-!
# Runs of characters

Story text is scanned as a list of characters. This module holds the blank characters, trimming,
ASCII case and the length in UTF-8 bytes, by which every offset of the library is counted.

A class of characters is written as a table: the code points, in increasing order, at which membership
changes. A code point belongs to the class when an odd number of them are at or below it.
-/

namespace Gamebook

/-- A run of characters, the form in which story text is scanned. -/
abbrev Text := List Char

namespace Text

/-- The characters with the Unicode property White_Space. -/
def isBlank (c : Char) : Bool :=
  let n := c.toNat
  (0x9 ≤ n && n ≤ 0xD) || n == 0x20 || n == 0x85 || n == 0xA0 || n == 0x1680
    || (0x2000 ≤ n && n ≤ 0x200A) || n == 0x2028 || n == 0x2029 || n == 0x202F || n == 0x205F
    || n == 0x3000

/-- Spaces and tabs, the only blanks that directives allow between their parts. -/
def isGap (c : Char) : Bool := c == ' ' || c == '\t'

/-- Drops the longest tail whose characters all satisfy `p`. -/
def dropEndWhile (p : Char → Bool) (t : Text) : Text := (t.reverse.dropWhile p).reverse

/-- The text without the blanks at either end. -/
def trim (t : Text) : Text := dropEndWhile isBlank (t.dropWhile isBlank)

/-- The text without the spaces and tabs at its start. -/
def skipGap (t : Text) : Text := t.dropWhile isGap

/-- The text without the spaces and tabs at its end. -/
def dropGapEnd (t : Text) : Text := dropEndWhile isGap t

/-- Lowers the letters A to Z and leaves every other character alone. -/
def lower (t : Text) : Text := t.map Char.toLower

/-- The number of bytes of the UTF-8 form. -/
def byteLength : Text → Nat
  | [] => 0
  | c :: r => c.utf8Size + byteLength r

/-- The characters that start at or after byte `start` and before byte `stop`. -/
def byteSlice (t : Text) (start stop : Nat) : Text :=
  match t with
  | [] => []
  | c :: r =>
    if stop = 0 then []
    else if start = 0 then c :: byteSlice r 0 (stop - c.utf8Size)
    else byteSlice r (start - c.utf8Size) (stop - c.utf8Size)

/-- The rest of `t` after `pre`, when `t` starts with it. -/
def after? (pre : Text) (t : Text) : Option Text :=
  match pre, t with
  | [], t => some t
  | _ :: _, [] => none
  | p :: ps, c :: r => if p = c then after? ps r else none

/-- Whether an odd number of the given code points, in increasing order, are at or below `n`. -/
def oddBelow (n : Nat) : List Nat → Bool
  | [] => false
  | k :: ks => if k ≤ n then !oddBelow n ks else false

/-- The value of a hexadecimal digit. -/
def hexDigit? (c : Char) : Option Nat :=
  if c.isDigit then some (c.toNat - '0'.toNat)
  else if 'a' ≤ c ∧ c ≤ 'f' then some (c.toNat - 'a'.toNat + 10)
  else if 'A' ≤ c ∧ c ≤ 'F' then some (c.toNat - 'A'.toNat + 10)
  else none

@[simp] theorem byteLength_nil : byteLength [] = 0 := rfl

@[simp] theorem byteLength_cons (c : Char) (t : Text) :
    byteLength (c :: t) = c.utf8Size + byteLength t := rfl

@[simp] theorem byteLength_append (s t : Text) :
    byteLength (s ++ t) = byteLength s + byteLength t := by
  induction s with
  | nil => simp
  | cons c r ih => simp [ih, Nat.add_assoc]

theorem after?_append (pre t : Text) : after? pre (pre ++ t) = some t := by
  induction pre with
  | nil => cases t <;> rfl
  | cons c pre ih => rw [List.cons_append, after?, if_pos rfl, ih]

theorem after?_eq_some {pre t r : Text} (h : after? pre t = some r) : t = pre ++ r := by
  induction pre generalizing t with
  | nil => simpa [after?] using h
  | cons p ps ih =>
    cases t with
    | nil => simp [after?] at h
    | cons c s =>
      by_cases hc : p = c
      · subst hc
        simp only [after?, ↓reduceIte] at h
        simp [ih h]
      · simp [after?, hc] at h

end Text
end Gamebook
