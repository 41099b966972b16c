import Gamebook.Text.Basic

/-!
# Elements and trees

A fragment of a document is a list of nodes: runs of text, and elements with their children. An
element has a name in one of three vocabularies and attributes in the order of the source.
-/

namespace Gamebook.Html

/-- The vocabularies. -/
inductive Vocabulary where
  | html | svg | math
deriving DecidableEq, Repr

/-- An attribute; `group` is what is written before its name and a colon, if anything is. -/
structure Attribute where
  name : String
  value : String
  group : String := ""
deriving DecidableEq

/-- An element without its children. -/
structure Element where
  vocabulary : Vocabulary := .html
  name : String
  attributes : List Attribute := []
deriving DecidableEq

/-- A node of a fragment. -/
inductive Node where
  | text (run : Text)
  | element (e : Element) (children : List Node)

namespace Element

/-- Whether this is the element of the main vocabulary with a name. -/
def isHtml (e : Element) (name : String) : Bool := e.vocabulary == .html && e.name == name

/-- Whether this is an element of the main vocabulary with one of some names. -/
def isHtmlIn (e : Element) (names : List String) : Bool :=
  e.vocabulary == .html && names.contains e.name

end Element
end Gamebook.Html
