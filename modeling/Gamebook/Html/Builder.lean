import Gamebook.Html.Category
import Gamebook.Html.Draft
import Gamebook.Html.Token

/-!
# The state of tree building

Beside the tree under construction there are the elements that are still open, innermost first; the
formatting elements to be opened again, newest first; and the place in a table or a template that
decides where the next token goes.
-/

namespace Gamebook.Html

/-- Where the next token goes. -/
inductive Setting where
  | body | text | table | tableText | caption | columnGroup | tableBody | row | cell | template
deriving DecidableEq, Repr

/-- A formatting element to be opened again, or a border that such elements do not cross. -/
inductive Formatting where
  | border
  | element (node : Nat) (name : String) (attributes : List Attribute)
deriving DecidableEq

/-- The state of tree building. -/
structure Builder where
  draft : Draft
  opened : List Nat
  formatting : List Formatting := []
  setting : Setting := .body
  /-- The setting to return to after the text of an element or of a table. -/
  outer : Setting := .body
  templates : List Setting := []
  form : Option Nat := none
  /-- The text in a table that has not found its place yet. -/
  pending : List Text := []
  /-- Whether what has no place in a table goes in front of it. -/
  fostering : Bool := false
  skipLineFeed : Bool := false
  reading : Reading := .ordinary

namespace Builder

/-- The place of the outermost element. -/
def root : Nat := 0

/-- The place under which the content of templates hangs, outside the tree. -/
def limbo : Nat := 1

/-- The state before the first token: the outermost element is open. -/
def initial : Builder :=
  { draft := ⟨#[⟨.element { name := "html" }, none, []⟩, ⟨.nothing, none, []⟩]⟩, opened := [root] }

/-- The element in which the fragment stands. -/
def context : Element := { name := "div" }

/-- The element at a place. -/
def element (b : Builder) (n : Nat) : Element := (b.draft.element? n).getD { name := "" }

/-- The place of the innermost open element. -/
def currentPlace (b : Builder) : Nat := b.opened.headD root

/-- The innermost open element. -/
def current (b : Builder) : Element := b.element b.currentPlace

/-- The innermost open element, or the one in which the fragment stands. -/
def adjustedCurrent (b : Builder) : Element :=
  match b.opened with
  | [_] => context
  | _ => b.current

/-- Whether the innermost open element has a name. -/
def isCurrent (b : Builder) (name : String) : Bool := b.current.isHtml name

/-- Whether the innermost open element has one of some names. -/
def isCurrentIn (b : Builder) (names : List String) : Bool := b.current.isHtmlIn names

/-- Whether an element with a name is open. -/
def isOpen (b : Builder) (name : String) : Bool := b.opened.any fun n => (b.element n).isHtml name

/-- Whether a place is found among open ones before the search ends. -/
def findsIn (b : Builder) (s : Category.Scope) (p : Nat → Bool) : List Nat → Bool
  | [] => false
  | n :: ns => p n || (!s.stopsAt (b.element n) && findsIn b s p ns)

/-- Whether an open element is in scope. -/
def inScope (b : Builder) (s : Category.Scope) (p : Nat → Bool) : Bool := b.findsIn s p b.opened

/-- Whether an open element with a name is in scope. -/
def nameInScope (b : Builder) (s : Category.Scope) (name : String) : Bool :=
  b.inScope s fun n => (b.element n).isHtml name

/-- Closes the innermost element. -/
def pop (b : Builder) : Builder := { b with opened := b.opened.drop 1 }

/-- Closes elements up to and with the first that satisfies `p`. -/
def popUntil (b : Builder) (p : Element → Bool) : Builder :=
  { b with opened := (b.opened.dropWhile fun n => !p (b.element n)).drop 1 }

/-- Closes elements up to and with the first of a name. -/
def popUntilName (b : Builder) (name : String) : Builder := b.popUntil fun e => e.isHtml name

/-- Closes elements until one that satisfies `p` is the innermost. -/
def popWhileNot (b : Builder) (p : Element → Bool) : Builder :=
  { b with opened := b.opened.dropWhile fun n => !p (b.element n) }

/-- Closes elements whose end tags may be left out. -/
def closeImplied (b : Builder) (names : List String) : Builder :=
  { b with opened := b.opened.dropWhile fun n => (b.element n).isHtmlIn names }

/-- Closes elements whose end tags may be left out, except those of a name. -/
def closeImpliedExcept (b : Builder) (name : String) : Builder :=
  b.closeImplied (Category.impliedEnd.filter (· ≠ name))

/-- Closes an open paragraph. -/
def closeParagraph (b : Builder) : Builder := (b.closeImpliedExcept "p").popUntilName "p"

/-- Closes an open paragraph that is in scope. -/
def closeParagraphInScope (b : Builder) : Builder :=
  if b.nameInScope .button "p" then b.closeParagraph else b

/-- Where something is put: at the end of a place, or in front of a table that hangs somewhere. -/
inductive Spot where
  | last (place : Nat)
  | before (table : Nat)

/-- The spot for what has no place in a table, found from the innermost open element on. -/
def fosterSpot (b : Builder) : List Nat → Spot
  | [] => .last root
  | n :: ns =>
    let e := b.element n
    if e.isHtml "template" then .last limbo
    else if e.isHtml "table" then
      match (b.draft.place n).above with
      | some _ => .before n
      | none => .last (ns.headD root)
    else fosterSpot b ns

/-- The spot for something that belongs into an element. -/
def spotIn (b : Builder) (target : Nat) : Spot :=
  let e := b.element target
  if b.fostering && e.isHtmlIn Category.tableContext then b.fosterSpot b.opened
  else if e.isHtml "template" then .last limbo
  else .last target

/-- Moves a place to a spot. -/
def putAt (b : Builder) (spot : Spot) (n : Nat) : Builder :=
  { b with draft := match spot with
      | .last p => b.draft.append p n
      | .before table => b.draft.insertBefore table n }

/-- Adds text where text belongs. -/
def addText (b : Builder) (run : Text) : Builder :=
  { b with draft := match b.spotIn b.currentPlace with
      | .last p => b.draft.appendText p run
      | .before table => b.draft.insertTextBefore table run }

/-- A new element, put where it belongs, and its place. -/
def insertClosed (b : Builder) (e : Element) : Builder × Nat :=
  let (draft, n) := b.draft.allocate (.element e)
  (({ b with draft := draft }).putAt (b.spotIn b.currentPlace) n, n)

/-- Inserts an element and opens it; its place. -/
def insertAt (b : Builder) (e : Element) : Builder × Nat :=
  let (b, n) := b.insertClosed e
  ({ b with opened := n :: b.opened }, n)

/-- Inserts an element and opens it. -/
def insert (b : Builder) (name : String) (attributes : List Attribute) : Builder :=
  (b.insertAt { name := name, attributes := attributes }).1

/-- Inserts an element without content. -/
def insertVoid (b : Builder) (name : String) (attributes : List Attribute) : Builder :=
  (b.insertClosed { name := name, attributes := attributes }).1

/-- Inserts an element whose text is read up to its end tag. -/
def insertReading (b : Builder) (name : String) (attributes : List Attribute) (reading : Reading) :
    Builder :=
  let b := b.insert name attributes
  { b with outer := b.setting, setting := .text, reading := reading }

/-! ## Formatting elements -/

/-- The formatting elements down to the last border, newest first. -/
def recent (b : Builder) : List Formatting := b.formatting.takeWhile (· ≠ .border)

/-- Whether a formatting element hangs at a place. -/
def Formatting.isAt (n : Nat) : Formatting → Bool
  | .border => false
  | .element m _ _ => m == n

/-- Whether there is no need to open a formatting element again. -/
def isSettled (b : Builder) : Formatting → Bool
  | .border => true
  | .element n _ _ => b.opened.contains n

/-- Takes a formatting element out of the list. -/
def forget (b : Builder) (n : Nat) : Builder :=
  { b with formatting := b.formatting.filter fun f => !Formatting.isAt n f }

/-- Drops formatting elements down to and with the last border. -/
def clearFormatting (b : Builder) : Builder :=
  { b with formatting := (b.formatting.dropWhile (· ≠ .border)).drop 1 }

/-- Opens formatting elements again, oldest first; they are given oldest first and returned newest
first. -/
def reopen (b : Builder) : List Formatting → List Formatting → Builder × List Formatting
  | [], done => (b, done)
  | .border :: fs, done => reopen b fs (.border :: done)
  | .element _ name attributes :: fs, done =>
    let (b, n) := b.insertAt { name := name, attributes := attributes }
    reopen b fs (.element n name attributes :: done)

/-- Opens again the formatting elements that were closed since the last border or the last one that
is open. -/
def reconstruct (b : Builder) : Builder :=
  let unsettled := b.formatting.takeWhile fun f => !b.isSettled f
  let settled := b.formatting.drop unsettled.length
  let (b, reopened) := b.reopen unsettled.reverse []
  { b with formatting := reopened ++ settled }

/-- Whether two lists of attributes agree up to order. -/
def sameAttributes (as bs : List Attribute) : Bool :=
  as.length == bs.length && as.all (bs.contains ·) && bs.all (as.contains ·)

/-- Whether a formatting element has a name and, up to order, attributes. -/
def Formatting.matches (name : String) (attributes : List Attribute) : Formatting → Bool
  | .border => false
  | .element _ name' attributes' => name == name' && sameAttributes attributes attributes'

/-- Drops the last element of a list that satisfies `p`. -/
def dropLastWhere {α : Type} (p : α → Bool) (l : List α) : List α := (l.reverse.eraseP p).reverse

/-- Inserts a formatting element. Of equal ones since the last border only three are remembered. -/
def insertFormatting (b : Builder) (name : String) (attributes : List Attribute) : Builder :=
  let recent := b.recent
  let older := b.formatting.drop recent.length
  let equal := Formatting.matches name attributes
  let kept := if 3 ≤ recent.countP equal then dropLastWhere equal recent else recent
  let (b, n) := b.insertAt { name := name, attributes := attributes }
  { b with formatting := .element n name attributes :: (kept ++ older) }

/-- Sets a border for formatting elements. -/
def addBorder (b : Builder) : Builder := { b with formatting := .border :: b.formatting }

/-! ## Settings -/

/-- The setting that an open element calls for. -/
def settingOf? (b : Builder) (e : Element) (isOutermost : Bool) : Option Setting :=
  if e.vocabulary ≠ .html then none
  else
    match e.name with
    | "td" | "th" => if isOutermost then none else some .cell
    | "tr" => some .row
    | "tbody" | "thead" | "tfoot" => some .tableBody
    | "caption" => some .caption
    | "colgroup" => some .columnGroup
    | "table" => some .table
    | "template" => some (b.templates.headD .body)
    | _ => none

/-- The setting that some open elements call for. -/
def settingFor (b : Builder) : List Nat → Setting
  | [] => .body
  | [_] => (b.settingOf? context true).getD .body
  | n :: ns => (b.settingOf? (b.element n) false).getD (settingFor b ns)

/-- Takes up the setting that the open elements call for. -/
def resetSetting (b : Builder) : Builder := { b with setting := b.settingFor b.opened }

/-- Changes the setting. -/
def enter (b : Builder) (s : Setting) : Builder := { b with setting := s }

end Builder
end Gamebook.Html
