import Gamebook.HostName.Name
import Gamebook.Html.Reference

/-!
# Addresses

Which addresses an element may point to: relative ones, and well-formed ones of a few schemes. An
address of the web schemes must name a host; a host is a number in brackets, four numbers, or a name
without forbidden characters.
-/

namespace Gamebook.Html.Address

/-- Characters that are dropped at either end of an address. -/
def isEdge (c : Char) : Bool := c.toNat ≤ 0x20

/-- Characters that are dropped everywhere in an address. -/
def isBreak (c : Char) : Bool := c == '\t' || c == '\n' || c == '\r'

/-- An address without the characters that do not count. -/
def clean (t : Text) : Text :=
  (Text.dropEndWhile isEdge (t.dropWhile isEdge)).filter fun c => !isBreak c

/-- The scheme of an address in lower case, and the text after its colon. -/
def splitScheme? (t : Text) : Option (Text × Text) :=
  let isSchemeChar (c : Char) : Bool := c.isAlphanum || c == '+' || c == '-' || c == '.'
  match t.dropWhile isSchemeChar, t.head? with
  | ':' :: rest, some c =>
    if c.isAlpha then some (Text.lower (t.takeWhile isSchemeChar), rest) else none
  | _, _ => none

/-- Whether a character ends the host and what goes with it. -/
def endsAuthority (web : Bool) (c : Char) : Bool :=
  c == '/' || c == '?' || c == '#' || (web && c == '\\')

/-- The user that an authority names, and the text after the sign behind it; `none` when nothing but
the sign stands where a host is due. -/
def splitUser? (web : Bool) (t : Text) : Option (Text × Text) :=
  let authority := t.takeWhile fun c => !endsAuthority web c
  if authority.contains '@' then
    let host := (authority.reverse.takeWhile (· ≠ '@')).reverse
    let user := authority.take (authority.length - host.length - 1)
    let rest := t.drop (authority.length - host.length)
    if user = [] ∧ host = [] ∧ rest ≠ [] then none else some (user, rest)
  else some ([], t)

/-- The host that starts a text, and the text after it; a colon in brackets belongs to the host. -/
def splitHost (web : Bool) (inBrackets : Bool) : Text → Text × Text
  | [] => ([], [])
  | c :: r =>
    if (c = ':' ∧ ¬inBrackets) ∨ endsAuthority web c then ([], c :: r)
    else
      let (host, rest) := splitHost web (if c = '[' then true else c ≠ ']' && inBrackets) r
      (c :: host, rest)

/-- Whether the number behind the colon of a host, which may be left out, is well formed. -/
def isHostNumber (t : Text) : Bool :=
  let ds := t.takeWhile Char.isDigit
  Reference.numberOf 10 ds ≤ 0xFFFF
    && (t.drop ds.length).head?.all fun c => c == '/' || c == '\\' || c == '?' || c == '#'

/-- Whether a part of a number in brackets is one to four hexadecimal digits. -/
def isPiece (t : Text) : Bool :=
  1 ≤ t.length && t.length ≤ 4 && t.all fun c => (Text.hexDigit? c).isSome

/-- The parts of a text between occurrences of a character. -/
def parts (sep : Char) (t : Text) : List Text :=
  Text.splitAll (fun t => match t with | c :: r => if c = sep then some r else none | [] => none) t

/-- Whether a text is four decimal numbers below 256 without zeros in front. -/
def isDotted (t : Text) : Bool :=
  let ps := parts '.' t
  ps.length == 4 && ps.all fun p =>
    p ≠ [] && p.all Char.isDigit && (p.length == 1 || p.head? ≠ some '0')
      && Reference.numberOf 10 p ≤ 255

/-- How many of the eight places some pieces fill; four numbers, which may only come last where they
may come at all, fill two. -/
def places? (mayEndDotted : Bool) (t : Text) : Option Nat :=
  if t = [] then some 0
  else
    let ps := parts ':' t
    let last := ps.getLastD []
    if mayEndDotted && last.contains '.' then
      if isDotted last && ps.dropLast.all isPiece then some (ps.length + 1) else none
    else if ps.all isPiece then some ps.length
    else none

/-- Whether a text is the number of a host in brackets: eight pieces, or fewer around one gap. -/
def isBracketed (t : Text) : Bool :=
  match Text.findFirst? (Text.after? "::".toList) t with
  | none => places? true t == some 8
  | some right =>
    let left := t.take (t.length - right.length - 2)
    match places? false left, places? true right with
    | some m, some n => m + n ≤ 7
    | _, _ => false

/-- The value of a number of a dotted host: decimal, or octal behind `0`, or hexadecimal behind
`0x`; `none` if it is none. -/
def dottedPart? (t : Text) : Option Nat :=
  let digits (base : Nat) (isDigit : Char → Bool) (ds : Text) : Option Nat :=
    if ds.all isDigit then some (Reference.numberOf base ds) else none
  match t with
  | [] => none
  | '0' :: 'x' :: r | '0' :: 'X' :: r => digits 16 (fun c => (Text.hexDigit? c).isSome) r
  | '0' :: r => digits 8 (fun c => '0' ≤ c && c ≤ '7') r
  | t => digits 10 Char.isDigit t

/-- The labels of a name without an empty one at its end. -/
def labels (t : Text) : List Text :=
  let ps := parts '.' t
  if 1 < ps.length ∧ ps.getLast? = some [] then ps.dropLast else ps

/-- Whether a name ends in a number and must therefore be a dotted host. -/
def endsInNumber (t : Text) : Bool :=
  let last := (labels t).getLastD []
  last ≠ [] && (last.all Char.isDigit
    || (match last with
      | '0' :: 'x' :: _ | '0' :: 'X' :: _ => (dottedPart? last).isSome
      | _ => false))

/-- Whether a name is a dotted host of at most four numbers in range. -/
def isDottedHost (t : Text) : Bool :=
  match (labels t).mapM dottedPart? with
  | none => false
  | some ns =>
    ns.length ≤ 4 && ns.dropLast.all (· ≤ 255) && ns.getLastD 0 < Nat.pow 256 (5 - ns.length)

/-- Whether a character may not stand in any host outside brackets. -/
def isForbiddenAnywhere (c : Char) : Bool :=
  ['\x00', ' ', '#', '/', ':', '<', '>', '?', '@', '[', '\\', ']', '^', '|'].contains c

/-- The bytes of a text in which a percent sign and two digits stand for a byte. -/
def percentBytes : Text → List UInt8
  | [] => []
  | '%' :: a :: b :: r =>
    match Text.hexDigit? a, Text.hexDigit? b with
    | some x, some y => UInt8.ofNat (16 * x + y) :: percentBytes r
    | _, _ => String.utf8EncodeChar '%' ++ percentBytes (a :: b :: r)
  | c :: r => String.utf8EncodeChar c ++ percentBytes r

/-- The text behind the percent signs of a text, if it is one. -/
def percentDecode? (t : Text) : Option Text :=
  (String.fromUTF8? ⟨(percentBytes t).toArray⟩).map String.toList

/-- Whether a text is the host of a web address. -/
def isWebHost (t : Text) : Bool :=
  match t with
  | '[' :: r => r.getLast? == some ']' && isBracketed r.dropLast
  | t =>
    match (percentDecode? t).bind HostName.settle? with
    | none => false
    | some name => name ≠ [] && (!endsInNumber name || isDottedHost name)

/-- Whether a text is the host of another address. -/
def isOtherHost (t : Text) : Bool :=
  match t with
  | '[' :: r => r.getLast? == some ']' && isBracketed r.dropLast
  | t => !t.any fun c => isForbiddenAnywhere c

/-- Whether the text behind the two slashes of an address is well formed. -/
def isAuthority (web : Bool) (t : Text) : Bool :=
  match splitUser? web t with
  | none => false
  | some (user, r) =>
    let (host, rest) := splitHost web false r
    (if web then isWebHost host else isOtherHost host)
      && (match rest with
        | ':' :: number => host ≠ [] && isHostNumber number
        | _ => host ≠ [] || user = [] || user = [':'])

/-- Whether an element may point to an address. -/
def isAllowed (t : Text) : Bool :=
  match splitScheme? (clean t) with
  | none => true
  | some (scheme, rest) =>
    if scheme = "http".toList ∨ scheme = "https".toList then
      isAuthority true (rest.dropWhile fun c => c == '/' || c == '\\')
    else if scheme = "asset".toList then
      match rest with
      | '/' :: '/' :: r => isAuthority false r
      | _ => true
    else false

end Gamebook.Html.Address
