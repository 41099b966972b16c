import Gamebook.Text.Basic
import Gamebook.Text.WordChar

/-!
# Patterns

A pattern describes texts: literals, classes of characters, assertions, groups, alternatives and
repetitions. `Pattern.isValid` says whether a text is one. A pattern stands in braces, so it has no
closing brace, and nothing that needs one, such as a counted repetition, can be written in it.
-/

namespace Gamebook.Pattern

/-- What a pattern holds at one place. -/
inductive Item where
  | literal (c : Char)
  | characters
  | assertion
deriving DecidableEq

/-- The letters that stand for a general category. -/
def isCategory (c : Char) : Bool := "CLMNPSZ".toList.contains c.toUpper

/-- The character whose number is written in hexadecimal digits, exactly `count` of them, and the
text after it. -/
def hexLiteral? (count : Nat) (t : Text) : Option (Item × Text) := do
  let ds ← (t.take count).mapM Text.hexDigit?
  let n := ds.foldl (fun n d => 16 * n + d) 0
  if ds.length = count ∧ n.isValidChar then some (.literal (Char.ofNat n), t.drop count) else none

/-- What a backslash and the text behind it stand for, and the text after it. Boundaries of words
and classes that reach beyond ASCII depend on whether the pattern is `unicode`: of the first only
those without it can be searched for, of the second only those with it. -/
def escape? (unicode : Bool) (t : Text) : Option (Item × Text) :=
  match t with
  | [] => none
  | c :: r =>
    if c = 'x' then hexLiteral? 2 r
    else if c = 'u' then hexLiteral? 4 r
    else if c = 'U' then hexLiteral? 8 r
    else if c = 'p' ∨ c = 'P' then
      match r with
      | category :: r => if unicode && isCategory category then some (.characters, r) else none
      | [] => none
    else if "dsw".toList.contains c then some (.characters, r)
    else if "DSW".toList.contains c then if unicode then some (.characters, r) else none
    else if "aftnrv".toList.contains c then some (.literal c, r)
    else if "Az".toList.contains c then some (.assertion, r)
    else if "bB<>".toList.contains c then if unicode then none else some (.assertion, r)
    else if c.toNat < 0x80 ∧ ¬c.isAlphanum then some (.literal c, r)
    else none

/-! ## Classes in brackets -/

/-- The names that stand between colons in a class. -/
def classNames : List Text :=
  ["alnum", "alpha", "ascii", "blank", "cntrl", "digit", "graph", "lower", "print", "punct",
    "space", "upper", "word", "xdigit"].map String.toList

/-- The text after a named class whose opening bracket stands before `t`. -/
def afterNamedClass? (t : Text) : Option Text := do
  let r ← Text.after? [':'] t
  let r := match r with
    | '^' :: r => r
    | r => r
  let name := r.takeWhile (· ≠ ':')
  let rest ← Text.after? [':', ']'] (r.drop name.length)
  if classNames.contains name then some rest else none

/-- The start of a class behind its opening bracket: a negation, hyphens, and a closing bracket that
comes first stand for themselves. What is left is not empty. -/
def openClass? (unicode : Bool) (t : Text) : Option Text :=
  let inside := match t with
    | '^' :: r => if unicode then some r else none
    | t => some t
  inside.bind fun r =>
    let behind := r.dropWhile (· = '-')
    match behind with
    | [] => none
    | c :: rest =>
      if c = ']' ∧ behind.length = r.length then if rest = [] then none else some rest
      else some behind

/-- A literal or an escape in a class, and the text after it. -/
def classItem? (unicode : Bool) (t : Text) : Option (Item × Text) :=
  match t with
  | [] => none
  | '\\' :: r => (escape? unicode r).filter fun (item, _) => item ≠ .assertion
  | c :: r => if unicode || c.toNat < 0x80 then some (.literal c, r) else none

/-- The text after an item of a class or a range between two of them. -/
def afterRange? (unicode : Bool) (t : Text) : Option Text := do
  let (first, rest) ← classItem? unicode t
  match rest with
  | [] => none
  | ['-'] => none
  | '-' :: c :: r =>
    if c = ']' ∨ c = '-' then some rest
    else
      match first, ← classItem? unicode (c :: r) with
      | .literal a, (.literal b, rest) => if a ≤ b then some rest else none
      | _, _ => none
  | rest => some rest

/-- The text after a class, `depth` brackets of which are open. Every round takes a character. -/
def afterClass? (unicode : Bool) : Nat → Nat → Text → Option Text
  | 0, _, _ => none
  | rounds + 1, depth, t =>
    match t with
    | [] => none
    | '[' :: r =>
      match afterNamedClass? r with
      | some rest => afterClass? unicode rounds depth rest
      | none => (openClass? unicode r).bind (afterClass? unicode rounds (depth + 1))
    | ']' :: r => if depth = 1 then some r else afterClass? unicode rounds (depth - 1) r
    | '&' :: '&' :: r | '-' :: '-' :: r | '~' :: '~' :: r => afterClass? unicode rounds depth r
    | t => (afterRange? unicode t).bind (afterClass? unicode rounds depth)

/-- The text after a class whose opening bracket stands before `t`. -/
def class? (unicode : Bool) (t : Text) : Option Text :=
  (openClass? unicode t).bind (afterClass? unicode (t.length + 1) 1)

/-! ## Groups -/

/-- What stands behind an opening parenthesis. -/
inductive Opening where
  /-- A group, with the name that it is captured under if it has one. -/
  | group (name : Option Text) (unicode : Bool)
  /-- Flags for what follows in the same group. -/
  | flags (unicode : Bool)

/-- Whether a text may be the name of a group. -/
def isGroupName : Text → Bool
  | [] => false
  | c :: r =>
    (c == '_' || (Text.isAlphanumeric c && !c.isDigit))
      && r.all fun c => c == '_' || c == '.' || c == '[' || c == ']' || Text.isAlphanumeric c

/-- Whether flags, between which one hyphen may stand that something follows, are known and differ
from one another. -/
def areFlags (fs : Text) : Bool :=
  fs.all ("imsUuRx-".toList.contains ·) && fs.Nodup && fs.getLast? ≠ some '-'

/-- Whether the pattern is `unicode` behind flags. -/
def unicodeBehind (unicode : Bool) (fs : Text) : Bool :=
  if (fs.takeWhile (· ≠ '-')).contains 'u' then true
  else if fs.contains 'u' then false
  else unicode

/-- What an opening parenthesis in front of `t` opens, and the text after that. -/
def opening? (unicode : Bool) (t : Text) : Option (Opening × Text) :=
  let named (r : Text) : Option (Opening × Text) :=
    let name := r.takeWhile (· ≠ '>')
    match r.drop name.length with
    | '>' :: rest => if isGroupName name then some (.group (some name) unicode, rest) else none
    | _ => none
  match t with
  | '?' :: 'P' :: '<' :: r => named r
  | '?' :: '<' :: r => named r
  | '?' :: r =>
    let fs := r.takeWhile fun c => c ≠ ':' ∧ c ≠ ')'
    if !areFlags fs then none
    else
      match r.drop fs.length with
      | ':' :: rest => some (.group none (unicodeBehind unicode fs), rest)
      | ')' :: rest => if fs = [] then none else some (.flags (unicodeBehind unicode fs), rest)
      | _ => none
  | t => some (.group none unicode, t)

/-- How far a pattern has been read: whether each open group is in a `unicode` part, innermost
first, whether what comes next is, whether there is something that could be repeated, and the names
of groups. -/
structure Progress where
  outer : List Bool := []
  unicode : Bool := true
  repeatable : Bool := false
  names : List Text := []

/-- Whether a text goes on from some progress to the end of a pattern. Every round takes a
character. -/
def goesOn : Nat → Progress → Text → Bool
  | 0, _, _ => false
  | _, p, [] => p.outer.isEmpty
  | rounds + 1, p, c :: r =>
    let item (rest : Text) : Bool := goesOn rounds { p with repeatable := true } rest
    if c = '(' then
      match opening? p.unicode r with
      | none => false
      | some (.flags unicode, rest) =>
        goesOn rounds { p with unicode := unicode, repeatable := false } rest
      | some (.group name unicode, rest) =>
        if name.any p.names.contains then false
        else
          goesOn rounds
            { outer := p.unicode :: p.outer, unicode := unicode, repeatable := false,
              names := name.toList ++ p.names } rest
    else if c = ')' then
      match p.outer with
      | [] => false
      | unicode :: outer =>
        goesOn rounds { p with outer := outer, unicode := unicode, repeatable := true } r
    else if c = '|' then goesOn rounds { p with repeatable := false } r
    else if c = '?' ∨ c = '*' ∨ c = '+' then
      p.repeatable &&
        match r with
        | '?' :: r => item r
        | r => item r
    else if c = '{' then false
    else if c = '[' then
      match class? p.unicode r with
      | some rest => item rest
      | none => false
    else if c = '\\' then
      match escape? p.unicode r with
      | some (_, rest) => item rest
      | none => false
    else if c = '.' then p.unicode && item r
    else item r

/-- Whether a text is a pattern. -/
def isValid (t : Text) : Bool := goesOn (t.length + 1) {} t

end Gamebook.Pattern
