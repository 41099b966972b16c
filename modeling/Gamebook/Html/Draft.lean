import Gamebook.Html.Element

/-!
# A tree under construction

While a fragment is read its nodes move: they are kept in an array and refer to one another by their
places in it. `Draft.fragment` makes a list of nodes of what hangs below a place in the end.
-/

namespace Gamebook.Html

/-- What a place holds. -/
inductive Draft.Content where
  | element (e : Element)
  | text (run : Text)
  | nothing

/-- A place: its content, the place above it, and the places below it in order. -/
structure Draft.Place where
  content : Draft.Content
  above : Option Nat := none
  below : List Nat := []

/-- Nodes under construction. -/
structure Draft where
  places : Array Draft.Place

namespace Draft

/-- The place with a number; beyond the end there is nothing. -/
def place (d : Draft) (n : Nat) : Place := (d.places[n]?).getD ⟨.nothing, none, []⟩

/-- The element at a place. -/
def element? (d : Draft) (n : Nat) : Option Element :=
  match (d.place n).content with
  | .element e => some e
  | _ => none

/-- Changes a place. -/
def modify (d : Draft) (n : Nat) (f : Place → Place) : Draft := ⟨d.places.modify n f⟩

/-- A new place under no other, and its number. -/
def allocate (d : Draft) (c : Content) : Draft × Nat :=
  (⟨d.places.push ⟨c, none, []⟩⟩, d.places.size)

/-- Takes a place from under the one above it. -/
def detach (d : Draft) (n : Nat) : Draft :=
  match (d.place n).above with
  | none => d
  | some p =>
    (d.modify p fun q => { q with below := q.below.erase n }).modify n
      fun q => { q with above := none }

/-- Moves a place to the end of those under another. -/
def append (d : Draft) (above n : Nat) : Draft :=
  ((d.detach n).modify above fun q => { q with below := q.below ++ [n] }).modify n
    fun q => { q with above := some above }

/-- Inserts a place into a list in front of another. -/
def insertInFront (new old : Nat) : List Nat → List Nat
  | [] => [new]
  | n :: ns => if n = old then new :: n :: ns else n :: insertInFront new old ns

/-- Moves a place in front of a sibling. -/
def insertBefore (d : Draft) (sibling n : Nat) : Draft :=
  let d := d.detach n
  match (d.place sibling).above with
  | none => d
  | some p =>
    (d.modify p fun q => { q with below := insertInFront n sibling q.below }).modify n
      fun q => { q with above := some p }

/-- The text at a place. -/
def text? (d : Draft) (n : Nat) : Option Text :=
  match (d.place n).content with
  | .text run => some run
  | _ => none

/-- Adds text behind what is under a place, to a text that ends it if there is one. -/
def appendText (d : Draft) (above : Nat) (run : Text) : Draft :=
  let last := (d.place above).below.getLast?
  match last, last.bind d.text? with
  | some n, some before => d.modify n fun q => { q with content := .text (before ++ run) }
  | _, _ =>
    let (d, n) := d.allocate (.text run)
    d.append above n

/-- The place before a sibling. -/
def previous? (d : Draft) (sibling : Nat) : Option Nat :=
  match (d.place sibling).above with
  | none => none
  | some p => ((d.place p).below.takeWhile (· ≠ sibling)).getLast?

/-- Adds text in front of a sibling, to a text that stands there if there is one. -/
def insertTextBefore (d : Draft) (sibling : Nat) (run : Text) : Draft :=
  let before := d.previous? sibling
  match before, before.bind d.text? with
  | some n, some old => d.modify n fun q => { q with content := .text (old ++ run) }
  | _, _ =>
    let (d, n) := d.allocate (.text run)
    d.insertBefore sibling n

/-- Moves everything under one place to the end of what is under another. -/
def moveBelow (d : Draft) (source target : Nat) : Draft :=
  (d.place source).below.foldl (fun d n => d.append target n) d

/-- The nodes under a place, at most as deep as there are places. -/
def nodesBelow (d : Draft) : Nat → Nat → List Node
  | 0, _ => []
  | depth + 1, n =>
    (d.place n).below.filterMap fun m =>
      match (d.place m).content with
      | .element e => some (.element e (nodesBelow d depth m))
      | .text run => some (.text run)
      | .nothing => none

/-- The nodes under a place. -/
def fragment (d : Draft) (n : Nat) : List Node := nodesBelow d d.places.size n

end Draft
end Gamebook.Html
