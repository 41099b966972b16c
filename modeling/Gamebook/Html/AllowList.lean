import Gamebook.Html.Address
import Gamebook.Html.Foreign
import Gamebook.Html.Fragment

/-!
# Allow lists

Before a page is shown only the elements and attributes of a list are kept. Other elements give way
to their content, except those whose content is no text for a reader: they go with all that is in
them. Animations of drawings give way even if their names are in the list, and an element that shows
a copy of another one is kept empty.
-/

namespace Gamebook.Html

/-- The elements and attributes that may be shown, by their names in lower case. -/
structure AllowList where
  tags : List String
  attributes : List String
deriving DecidableEq

namespace AllowList

/-- The list for stories. -/
def story : AllowList :=
  ⟨["p", "br", "img", "video", "em", "strong", "q", "mark"],
    ["src", "alt", "class", "controls", "preload"]⟩

instance : Inhabited AllowList := ⟨story⟩

/-- The list of some names in any case. -/
def ofNames (tags attributes : List String) : AllowList :=
  let lower (s : String) : String := String.ofList (Text.lower s.toList)
  ⟨tags.map lower, attributes.map lower⟩

/-- The elements that go with their content unless they are allowed. -/
def dropped : List String := ["script", "style", "iframe", "object"]

/-- The elements that change others in the course of time. -/
def animations : List String := ["animate", "set"]

/-- Whether an element of drawings changes others in the course of time. -/
def isAnimation (e : Element) : Bool := e.vocabulary == .svg && animations.contains e.name

/-- Whether the content of an element is a copy that is made of another one when it is shown. -/
def isCopy (e : Element) : Bool := e.isHtml "selectedcontent"

/-- Whether the value of an attribute is an address. -/
def isAddress (tag name : String) : Bool :=
  (["href", "src", "xlink:href"].contains name && !animations.contains tag)
    || [("form", "action"), ("object", "data"), ("button", "formaction"), ("input", "formaction"),
      ("a", "ping"), ("video", "poster")].contains (tag, name)

/-- The attributes that an element of some name keeps whatever a list says. -/
def ownAttributes (tag : String) : List String :=
  match tag with
  | "a" => ["href", "hreflang"]
  | "bdo" => ["dir"]
  | "blockquote" | "q" => ["cite"]
  | "col" | "colgroup" => ["align", "char", "charoff", "span"]
  | "del" | "ins" => ["cite", "datetime"]
  | "hr" => ["align", "size", "width"]
  | "img" => ["align", "alt", "height", "src", "width"]
  | "ol" => ["start"]
  | "table" => ["align", "char", "charoff", "summary"]
  | "tbody" | "tfoot" | "thead" | "tr" => ["align", "char", "charoff"]
  | "td" => ["align", "char", "charoff", "colspan", "headers", "rowspan"]
  | "th" => ["align", "char", "charoff", "colspan", "headers", "rowspan", "scope"]
  | _ => []

/-- Whether an attribute of an element is kept. -/
def keepsAttribute (l : AllowList) (tag : String) (a : Attribute) : Bool :=
  (l.attributes.contains a.name || (ownAttributes tag).contains a.name)
    && (!isAddress tag a.name || Address.isAllowed a.value.toList)

/-- An element without the attributes that are not allowed. -/
def restrict (l : AllowList) (e : Element) : Element :=
  { e with attributes := e.attributes.filter (l.keepsAttribute e.name) }

mutual
/-- What is kept of a node that comes to stand in `parent`. -/
def keepNode (l : AllowList) (parent : Element) : Node → List Node
  | .text run => [.text run]
  | .element e children =>
    if (dropped.contains e.name && !l.tags.contains e.name) || !Foreign.mayStandIn parent e then []
    else if l.tags.contains e.name && !isAnimation e then
      [.element (l.restrict e) (if isCopy e then [] else keepNodes l e children)]
    else keepNodes l parent children
/-- What is kept of nodes that come to stand in `parent`. -/
def keepNodes (l : AllowList) (parent : Element) : List Node → List Node
  | [] => []
  | n :: ns => keepNode l parent n ++ keepNodes l parent ns
end

/-- The outermost element, in which a fragment stands. -/
def outermost : Element := { name := "html" }

/-- What is kept of a fragment. -/
def keep (l : AllowList) (ns : List Node) : List Node := l.keepNodes outermost ns

/-- The written form of what is kept of a text. -/
def sanitize (l : AllowList) (t : Text) : Text := write (l.keep (parse t))

end AllowList
end Gamebook.Html
