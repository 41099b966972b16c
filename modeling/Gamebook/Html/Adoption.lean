import Gamebook.Html.Builder

/-!
# Closing formatting elements out of order

When a formatting element ends while other elements are open in it, it is closed around them and
opened again inside them.
-/

namespace Gamebook.Html.Builder

/-- Takes the first occurrence of a place from the open elements. -/
def removeOpen (b : Builder) (n : Nat) : Builder := { b with opened := b.opened.erase n }

/-- Closes an element by its end tag when no rule of its own applies. -/
def closeOther (b : Builder) (name : String) : Builder :=
  let above := b.opened.takeWhile fun n =>
    let e := b.element n
    !e.isHtml name && !e.isHtmlIn Category.special
  match b.opened.drop above.length with
  | n :: rest => if (b.element n).isHtml name then { b with opened := rest } else b
  | [] => b

/-- The node to move, and where in the list of formatting elements the new one goes: behind the
element of a place, or instead of the old one. -/
structure Climb where
  builder : Builder
  moving : Nat
  behind : Option Nat

/-- Goes from the block outwards to the formatting element: the first three formatting elements on
the way are opened anew around the moving node, all other elements are closed. `between` holds the
open elements on the way, innermost first. -/
def climb (block : Nat) (rounds : Nat) (c : Climb) : List Nat → Climb
  | [] => c
  | n :: ns =>
    let b := c.builder
    match b.formatting.find? fun f => Formatting.isAt n f with
    | none => climb block (rounds + 1) { c with builder := b.removeOpen n } ns
    | some .border => climb block (rounds + 1) { c with builder := b.removeOpen n } ns
    | some (.element _ name attributes) =>
      if 3 < rounds then
        climb block (rounds + 1) { c with builder := (b.forget n).removeOpen n } ns
      else
        let (draft, m) := b.draft.allocate (.element { name := name, attributes := attributes })
        let opened := b.opened.map fun k => if k = n then m else k
        let formatting := b.formatting.map fun f =>
          if Formatting.isAt n f then .element m name attributes else f
        let behind := if c.moving = block then some m else c.behind
        let b := { b with
          draft := draft.append m c.moving, opened := opened, formatting := formatting }
        climb block (rounds + 1) { c with builder := b, moving := m, behind := behind } ns

/-- Inserts a formatting element behind the one at a place, which in a list held newest first is in
front of it. -/
def insertBehind (new : Formatting) (n : Nat) : List Formatting → List Formatting
  | [] => [new]
  | f :: fs => if Formatting.isAt n f then new :: f :: fs else f :: insertBehind new n fs

/-- Inserts a place among open elements, just inside another. -/
def openInside (new n : Nat) : List Nat → List Nat
  | [] => [new]
  | m :: ms => if m = n then new :: m :: ms else m :: openInside new n ms

/-- Closes a formatting element around a block that is open in it. -/
def adopt (b : Builder) (node : Nat) (name : String) (attributes : List Attribute) (block : Nat)
    (between outside : List Nat) : Builder :=
  let c := climb block 1 ⟨b, block, none⟩ between
  let b := c.builder
  let ancestor := outside.headD root
  let b := { b with draft := b.draft.detach c.moving }
  let b := b.putAt (b.spotIn ancestor) c.moving
  let (draft, m) := b.draft.allocate (.element { name := name, attributes := attributes })
  let draft := (draft.moveBelow block m).append block m
  let new : Formatting := .element m name attributes
  let formatting := match c.behind with
    | none => b.formatting.map fun f => if Formatting.isAt node f then new else f
    | some k => (insertBehind new k b.formatting).filter fun f => !Formatting.isAt node f
  let b := ({ b with draft := draft, formatting := formatting }).removeOpen node
  { b with opened := openInside m block b.opened }

/-- Closes the formatting elements of a name, at most as often as there are rounds. -/
def closeFormattingIn : Nat → Builder → String → Builder
  | 0, b, _ => b
  | rounds + 1, b, name =>
    let named (f : Formatting) : Bool := match f with
      | .border => false
      | .element _ name' _ => name' == name
    match b.recent.find? named with
    | none | some .border => b.closeOther name
    | some (.element node _ attributes) =>
      if ¬b.opened.contains node then b.forget node
      else if ¬b.inScope .usual fun n => n == node then b
      else
        let inside := b.opened.takeWhile (· ≠ node)
        let outside := (b.opened.drop inside.length).drop 1
        match inside.reverse.find? fun n => (b.element n).isHtmlIn Category.special with
        | none => { b with opened := outside, formatting := (b.forget node).formatting }
        | some block =>
          let between := (inside.dropWhile (· ≠ block)).drop 1
          closeFormattingIn rounds (b.adopt node name attributes block between outside) name

/-- Closes a formatting element by its end tag. -/
def closeFormatting (b : Builder) (name : String) : Builder :=
  if b.isCurrent name && !b.formatting.any fun f => Formatting.isAt b.currentPlace f then b.pop
  else closeFormattingIn 8 b name

end Gamebook.Html.Builder
