import Gamebook.Text.Basic

/-!
# Labels in ASCII letters

A label of a name may be written with ASCII characters alone: those it has stand first, and behind
the last hyphen each other character follows as a number, which says how many code points and
places to pass before it goes in. Numbers are written in digits whose weights depend on the numbers
read so far.
-/

namespace Gamebook.HostName.Punycode

/-- The value of a digit: the letters in either case, then the decimal digits. -/
def digit? (c : Char) : Option Nat :=
  if c.isLower then some (c.toNat - 'a'.toNat)
  else if c.isUpper then some (c.toNat - 'A'.toNat)
  else if c.isDigit then some (c.toNat - '0'.toNat + 26)
  else none

/-- The least value of a digit at a place that does not end its number. -/
def limit (bias place : Nat) : Nat := max 1 (min 26 (place - bias))

/-- The number that a text starts with, its lowest digit first, and the text after it. -/
def number? (bias place weight : Nat) : Text → Option (Nat × Text)
  | [] => none
  | c :: r =>
    match digit? c with
    | none => none
    | some d =>
      if d < limit bias place then some (d * weight, r)
      else
        (number? bias (place + 36) (weight * (36 - limit bias place)) r).map fun (n, rest) =>
          (d * weight + n, rest)

theorem length_lt_of_number? {bias place weight n : Nat} {t rest : Text}
    (h : number? bias place weight t = some (n, rest)) : rest.length < t.length := by
  induction t generalizing place weight n with
  | nil => simp [number?] at h
  | cons c r ih =>
    unfold number? at h
    split at h
    · simp at h
    · split at h
      · obtain ⟨-, rfl⟩ := by simpa using h
        simp
      · obtain ⟨⟨m, s⟩, hs, he⟩ := Option.map_eq_some_iff.mp h
        obtain ⟨-, rfl⟩ := by simpa using he
        exact Nat.lt_succ_of_lt (ih hs)

/-- The bias for numbers around `n`. -/
def biasOf (n : Nat) : Nat :=
  if 455 < n then 36 + biasOf (n / 35) else 36 * n / (n + 38)
termination_by n

/-- The bias after a number was read as the one that makes `count` characters; the first number
tells less than the others. -/
def nextBias (isFirst : Bool) (n count : Nat) : Nat :=
  let n := n / if isFirst then 700 else 2
  biasOf (n + n / count)

/-- Puts the characters that the numbers of a text stand for into `out`; `code` and `place` say
where the last one went. -/
def fill? (bias code place : Nat) (out : Text) (t : Text) : Option Text :=
  if t = [] then some out
  else
    match h : number? bias 36 1 t with
    | none => none
    | some (n, rest) =>
      let count := out.length + 1
      let code := code + (place + n) / count
      let place' := (place + n) % count
      if code.isValidChar then
        fill? (nextBias (place == 0) n count) code (place' + 1)
          (out.insertIdx place' (Char.ofNat code)) rest
      else none
termination_by t.length
decreasing_by exact length_lt_of_number? h

/-- The label that a text stands for. -/
def decode? (t : Text) : Option Text :=
  let digits := (t.reverse.takeWhile (· ≠ '-')).reverse
  if digits.length + 1 = t.length then none
  else fill? 72 128 0 (t.take (t.length - digits.length - 1)) digits

end Gamebook.HostName.Punycode
