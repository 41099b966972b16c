import Gamebook.Text.Basic

/-!
# Lines

A line ends at a line feed. Carriage returns, alone or before a line feed, are first turned into
line feeds; `Text.lines` then cuts a text so that the lines, each with its line feed, concatenate
to it.
-/

namespace Gamebook.Text

/-- Every line break as a line feed: a carriage return with the line feed after it counts once. -/
def unixLines : Text → Text
  | [] => []
  | '\r' :: '\n' :: r => '\n' :: unixLines r
  | c :: r => (if c = '\r' then '\n' else c) :: unixLines r

/-- The lines of a text, each with its line feed; the last one may have none. -/
def lines : Text → List Text
  | [] => []
  | c :: r =>
    if c = '\n' then [c] :: lines r
    else
      match lines r with
      | [] => [[c]]
      | l :: ls => (c :: l) :: ls

/-- A line without its line feed. -/
def dropLineFeed (l : Text) : Text := if l.getLast? = some '\n' then l.dropLast else l

/-- The parts of a text between occurrences of `sep`; with `n` of them there are `n + 1` parts. -/
def splitOn (sep : Char) : Text → List Text
  | [] => [[]]
  | c :: r =>
    if c = sep then [] :: splitOn sep r
    else
      match splitOn sep r with
      | [] => [[c]]
      | l :: ls => (c :: l) :: ls

/-- The parts of a text between line feeds. -/
def splitLines (t : Text) : List Text := splitOn '\n' t

/-- Joins parts with `sep` between them. -/
def join (sep : Text) : List Text → Text
  | [] => []
  | [t] => t
  | t :: ts => t ++ sep ++ join sep ts

@[simp] theorem flatten_lines (t : Text) : (lines t).flatten = t := by
  induction t with
  | nil => rfl
  | cons c r ih =>
    unfold lines
    split
    · simp [ih]
    · split
      · next h => simp_all
      · next l ls h => simp [h] at ih; simp [ih]

/-- No carriage return is left. -/
theorem unixLines_not_mem (t : Text) : '\r' ∉ unixLines t := by
  fun_induction unixLines t with
  | case1 => simp
  | case2 r ih => simp [ih]
  | case3 c r _ ih =>
    simp only [List.mem_cons, not_or]
    refine ⟨?_, ih⟩
    split
    · decide
    · next h => exact fun e => h e.symm

end Gamebook.Text
