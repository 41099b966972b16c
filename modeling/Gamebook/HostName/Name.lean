import Gamebook.HostName.Joiner
import Gamebook.HostName.Punycode
import Gamebook.HostName.Standing
import Gamebook.Text.Replace

/-!
# Names of hosts

A name in any script is brought into its one form, and each label of it is checked: a label with the
mark of an encoded one is read back and must be what it would be encoded from; none may start with a
mark or hold a joiner without need, and if anything in the name is written from right to left, all
of its labels must keep one order.
-/

namespace Gamebook.HostName

/-- Whether an ASCII character may not stand in the name of a host. -/
def isForbidden (c : Char) : Bool :=
  c.toNat ≤ 0x20
    || ['#', '%', '/', ':', '<', '>', '?', '@', '[', '\\', ']', '^', '|', '\x7f'].contains c

/-- Whether a character may stand in an encoded label. -/
def isSettled (c : Char) : Bool := standing c = .kept ∧ ¬isForbidden c

/-- Whether every character of a text is an ASCII character. -/
def isPlain (t : Text) : Bool := t.all (·.toNat < 0x80)

/-- Whether a label is well formed by itself. -/
def isLabel (t : Text) : Bool := !t.head?.any isMark && joinersMatter [] t

/-- The label that a label stands for. An encoded one has at most 2000 characters behind its mark,
and one that is yet to be encoded at most 1000. -/
def label? (t : Text) : Option Text :=
  match Text.after? "xn--".toList t with
  | some code =>
    if isPlain code ∧ code.length ≤ 2000 ∧ code ≠ [] ∧ code.getLast? ≠ some '-' then
      (Punycode.decode? code).filter fun u =>
        u.all isSettled && composed u = u && isLabel u
    else none
  | none => if isLabel t ∧ (isPlain t ∨ t.length ≤ 1000) then some t else none

/-- The labels of a name. -/
def labels (t : Text) : List Text :=
  Text.splitAll (fun t => match t with | '.' :: r => some r | _ => none) t

/-- The one form of a name, if it may be the name of a host. -/
def settle? (t : Text) : Option Text :=
  match (replaceAll? t).map composed with
  | none => none
  | some name =>
    if name.any isForbidden then none
    else
      match (labels name).mapM label? with
      | none => none
      | some ls => if ls.any (·.any isRightward) ∧ ¬ls.all isOrdered then none else some name

end Gamebook.HostName
