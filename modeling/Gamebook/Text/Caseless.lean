import Gamebook.Text.Basic

/-!
# Letters without case

Keywords and names are read without regard to case, by simple Unicode case folding. Among the
characters beyond ASCII two fold to an ASCII letter: the long s folds to `s` and the Kelvin sign
to `k`.
-/

namespace Gamebook.Text

/-- Whether `c` is the lower-case ASCII letter `k` (or the very character `k`) up to case. -/
def sameLetter (k c : Char) : Bool :=
  c.toLower == k || (k == 's' && c == '\u017f') || (k == 'k' && c == '\u212a')

/-- The rest of `t` after the lower-case word `w`, read without regard to case. -/
def afterWord? (w : Text) (t : Text) : Option Text :=
  match w, t with
  | [], t => some t
  | _ :: _, [] => none
  | k :: ks, c :: r => if sameLetter k c then afterWord? ks r else none

/-- Whether `t` is the lower-case word `w` up to case. -/
def isWord (w t : Text) : Bool := afterWord? w t == some []

/-- The characters that may start a variable's name. -/
def isNameStart (c : Char) : Bool :=
  c.isAlpha || c == '_' || c == '\u017f' || c == '\u212a'

/-- The characters that may follow in a variable's name. -/
def isNameChar (c : Char) : Bool := isNameStart c || c.isDigit

/-- Splits a variable's name off the front of `t`: the longest run of name characters, when it
starts with a character that may start a name. -/
def splitName? (t : Text) : Option (Text × Text) :=
  match t with
  | [] => none
  | c :: r =>
    if isNameStart c then some (c :: r.takeWhile isNameChar, r.dropWhile isNameChar) else none

end Gamebook.Text
