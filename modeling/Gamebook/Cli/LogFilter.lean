import Gamebook.Cli.Pattern
import Gamebook.Decimal.Literal
import Gamebook.Text.Line

/-!
# Log filters

A log filter is a list of directives with commas between them. A directive is a level, or a target,
a span in brackets or both, with an optional level behind an equals sign. `LogFilter.isValid` says
whether a text is a filter.

Blanks around a directive do not count for its shape, but the places of its fields and its level are
counted from the start of the text with the blanks. So a blank in front of a directive or behind it
spoils a level behind an equals sign.
-/

namespace Gamebook.LogFilter

/-- The words for levels. -/
def levelWords : List Text :=
  ["error", "warn", "info", "debug", "trace", "off"].map String.toList

/-- Whether a text is the number of a level. -/
def isLevelNumber (t : Text) : Bool :=
  let ds := match t with
    | '+' :: r => r
    | t => t
  ds ≠ [] && ds.all Char.isDigit && Decimal.ofDigits ds ≤ 5

/-- Whether a text is a level; no text is one too. -/
def isLevel (t : Text) : Bool :=
  t = [] || isLevelNumber t || levelWords.contains (Text.lower t)

/-- Whether a text is the value of a field: a number or a pattern. -/
def isFieldValue (t : Text) : Bool := (Decimal.literal? t).isSome || Pattern.isValid t

/-- Whether a text is a field: a name, and behind an equals sign a value if there is one. -/
def isField (t : Text) : Bool :=
  match Text.splitOn '=' t with
  | _ :: value :: _ => isFieldValue value
  | _ => t ≠ []

/-- A directive as it is written, and its length without the blanks around it. -/
structure Directive where
  written : Text
  length : Nat

namespace Directive

/-- The written text from the place on where `rest` starts in the directive without blanks. -/
def textAt (d : Directive) (rest : Text) : Text := d.written.drop (d.length - rest.length)

/-- Whether a text that ends a directive is nothing or a level behind an equals sign. -/
def isLevelPart (d : Directive) (t : Text) : Bool :=
  match t with
  | [] => true
  | '=' :: level => isLevel (d.textAt level)
  | _ => false

/-- Whether a text that ends a directive goes on from inside the bracket of a span: a name, a field
in braces if there is one, the closing bracket, and a level. -/
def isSpanPart (d : Directive) (t : Text) : Bool :=
  match t.dropWhile fun c => c ≠ ']' ∧ c ≠ '\x7b' with
  | ']' :: r => d.isLevelPart r
  | '\x7b' :: r =>
    let field := r.takeWhile (· ≠ '\x7d')
    match r.drop field.length with
    | '\x7d' :: ']' :: rest => isField ((d.textAt r).take field.length) && d.isLevelPart rest
    | _ => false
  | _ => false

end Directive

/-- Whether a character may start a target. -/
def isTargetStart (c : Char) : Bool := Text.isAlphanumeric c || c == '-' || c == ':' || c == '_'

/-- Whether a text is a directive. -/
def isDirective (t : Text) : Bool :=
  let d : Directive := ⟨t, (Text.trim t).length⟩
  match Text.trim t with
  | [] => false
  | '[' :: r => d.isSpanPart r
  | c :: r =>
    isTargetStart c &&
      match r.dropWhile fun c => c ≠ '=' ∧ c ≠ '[' with
      | '[' :: r => d.isSpanPart r
      | rest => d.isLevelPart rest

/-- Whether a text is a filter. -/
def isValid (t : Text) : Bool :=
  ((Text.splitOn ',' t).filter (· ≠ [])).all isDirective

/-- The report of a text that is no filter. -/
def invalid (t : String) : String := "Invalid log level \"" ++ t ++ "\"."

end Gamebook.LogFilter
