import Gamebook.Html.Insertion
import Gamebook.Text.Line

/-!
# Fragments of a document

A text is read as what stands in a division of a document: never refused, every tag matched in the
end. A fragment is written with end tags for all elements that have content, and with references for
the characters that would not read back.
-/

namespace Gamebook.Html

/-- The nodes of a text. A byte order mark in front is dropped. -/
def parse (t : Text) : List Node :=
  let t := match t with
    | '\ufeff' :: r => r
    | t => t
  let t := Text.unixLines t
  (Builder.read (t.length + 1) .initial t).finish.draft.fragment Builder.root

/-- A character of a text, or of an attribute value if `quoted`. -/
def writeChar (quoted : Bool) (c : Char) : Text :=
  if c = '&' then "&amp;".toList
  else if c = '\u00a0' then "&nbsp;".toList
  else if c = '<' then "&lt;".toList
  else if c = '>' then "&gt;".toList
  else if c = '"' ∧ quoted then "&quot;".toList
  else [c]

/-- An attribute with the space in front of it. -/
def writeAttribute (a : Attribute) : Text :=
  let name := if a.group = "" then a.name.toList else a.group.toList ++ ':' :: a.name.toList
  ' ' :: name ++ '=' :: '"' :: a.value.toList.flatMap (writeChar true) ++ ['"']

/-- The start tag of an element. -/
def writeStart (e : Element) : Text :=
  '<' :: e.name.toList ++ e.attributes.flatMap writeAttribute ++ ['>']

/-- The end tag of an element. -/
def writeEnd (e : Element) : Text := '<' :: '/' :: e.name.toList ++ ['>']

mutual
/-- A node in its written form; the text of some elements is written as it is. -/
def writeNode (raw : Bool) : Node → Text
  | .text run => if raw then run else run.flatMap (writeChar false)
  | .element e children =>
    if e.isHtmlIn Category.voidElements then writeStart e
    else
      writeStart e ++ writeNodes (e.isHtmlIn Category.rawText) children ++ writeEnd e
/-- Nodes in their written form. -/
def writeNodes (raw : Bool) : List Node → Text
  | [] => []
  | n :: ns => writeNode raw n ++ writeNodes raw ns
end

/-- A fragment in its written form. -/
def write (ns : List Node) : Text := writeNodes false ns

end Gamebook.Html
