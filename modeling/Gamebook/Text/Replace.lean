import Gamebook.Text.Basic

/-!
# Replacing and splitting at matches

A matcher looks at a text from some position on, and at the character before that position, and says
what a match that begins there is replaced by and what is left after it. Matches are taken from left
to right and do not overlap.
-/

namespace Gamebook.Text

/-- What a match at the start of a text is replaced by, and the text after it. -/
abbrev Matcher := Option Char → Text → Option (Text × Text)

/-- Replaces matches, `skip` characters of the last one being still ahead; `before` is the character
in front of the text. -/
def replaceFrom (f : Matcher) (before : Option Char) (skip : Nat) : Text → Text
  | [] => []
  | c :: r =>
    match skip with
    | skip + 1 => replaceFrom f (some c) skip r
    | 0 =>
      match f before (c :: r) with
      | some (replacement, rest) =>
        replacement ++ replaceFrom f (some c) (r.length - rest.length) r
      | none => c :: replaceFrom f (some c) 0 r

/-- Replaces the matches in a text. -/
def replaceMatches (f : Matcher) (t : Text) : Text := replaceFrom f none 0 t

/-- Replaces every occurrence of the non-empty text `old`. -/
def replaceAll (old new : Text) (t : Text) : Text :=
  replaceMatches (fun _ t => (after? old t).map (new, ·)) t

/-- The first thing that `f` finds at a position of a text. -/
def findFirst? {α : Type} (f : Text → Option α) : Text → Option α
  | [] => none
  | c :: r =>
    match f (c :: r) with
    | some a => some a
    | none => findFirst? f r

/-- What stands before the first thing that `f` finds in a text, that thing, and the text after it.
-/
def splitFirst? {α : Type} (f : Text → Option (α × Text)) : Text → Option (Text × α × Text)
  | [] => none
  | c :: r =>
    match f (c :: r) with
    | some (found, rest) => some ([], found, rest)
    | none => (splitFirst? f r).map fun (before, found, rest) => (c :: before, found, rest)

/-- Puts a character in front of the first of some parts. -/
def consFirst (c : Char) : List Text → List Text
  | [] => [[c]]
  | p :: ps => (c :: p) :: ps

/-- The parts between the separators that `f` finds, `skip` characters of the last one being still
ahead. -/
def splitFrom (f : Text → Option Text) (skip : Nat) : Text → List Text
  | [] => [[]]
  | c :: r =>
    match skip with
    | skip + 1 => splitFrom f skip r
    | 0 =>
      match f (c :: r) with
      | some rest => [] :: splitFrom f (r.length - rest.length) r
      | none => consFirst c (splitFrom f 0 r)

/-- The parts of a text between the separators that `f` finds. -/
def splitAll (f : Text → Option Text) (t : Text) : List Text := splitFrom f 0 t

end Gamebook.Text
