import Gamebook.Html.Element

/-!
# Categories of elements

The sets of element names on which the placement of elements depends.
-/

namespace Gamebook.Html.Category

/-- Elements that end an open paragraph when they start. -/
def blocks : List String :=
  ["address", "article", "aside", "blockquote", "center", "details", "dialog", "dir", "div", "dl",
    "fieldset", "figcaption", "figure", "footer", "header", "hgroup", "main", "menu", "nav", "ol",
    "p", "search", "section", "summary", "ul"]

/-- Elements whose end tag closes them with all that is open in them. -/
def closable : List String :=
  ["address", "article", "aside", "blockquote", "button", "center", "details", "dialog", "dir",
    "div", "dl", "fieldset", "figcaption", "figure", "footer", "header", "hgroup", "listing",
    "main", "menu", "nav", "ol", "pre", "search", "section", "select", "summary", "ul"]

/-- Headings. -/
def headings : List String := ["h1", "h2", "h3", "h4", "h5", "h6"]

/-- Elements that format text and are opened again after they were closed out of order. -/
def formatting : List String :=
  ["b", "big", "code", "em", "font", "i", "s", "small", "strike", "strong", "tt", "u"]

/-- Elements that stop the search for an element that an end tag may close. -/
def special : List String :=
  ["address", "applet", "area", "article", "aside", "base", "basefont", "bgsound", "blockquote",
    "body", "br", "button", "caption", "center", "col", "colgroup", "dd", "details", "dir", "div",
    "dl", "dt", "embed", "fieldset", "figcaption", "figure", "footer", "form", "frame", "frameset",
    "h1", "h2", "h3", "h4", "h5", "h6", "head", "header", "hgroup", "hr", "html", "iframe", "img",
    "input", "isindex", "li", "link", "listing", "main", "marquee", "menu", "meta", "nav",
    "noembed", "noframes", "noscript", "object", "ol", "p", "param", "plaintext", "pre", "script",
    "section", "select", "source", "style", "summary", "table", "tbody", "td", "template",
    "textarea", "tfoot", "th", "thead", "title", "tr", "track", "ul", "wbr", "xmp"]

/-- Elements whose end tags may be left out. -/
def impliedEnd : List String :=
  ["dd", "dt", "li", "option", "optgroup", "p", "rb", "rp", "rt", "rtc"]

/-- Elements whose end tags may be left out at the end of a template. -/
def impliedEndOfTemplate : List String :=
  impliedEnd ++ ["caption", "colgroup", "tbody", "td", "tfoot", "th", "thead", "tr"]

/-- Elements of a document's head that may stand anywhere. -/
def metadata : List String :=
  ["base", "basefont", "bgsound", "link", "meta", "noframes", "script", "style", "template",
    "title"]

/-- Elements without content that stand in a line of text. -/
def voidInline : List String := ["area", "br", "embed", "img", "keygen", "wbr"]

/-- Elements that are written without an end tag. -/
def voidElements : List String :=
  ["area", "base", "basefont", "bgsound", "br", "col", "embed", "frame", "hr", "img", "input",
    "keygen", "link", "meta", "param", "source", "track", "wbr"]

/-- Elements of the main vocabulary whose text is written as it is. -/
def rawText : List String :=
  ["style", "script", "xmp", "iframe", "noembed", "noframes", "plaintext", "noscript"]

/-- The parts of a table that hold rows. -/
def tableSections : List String := ["tbody", "tfoot", "thead"]

/-- The cells of a table. -/
def cells : List String := ["td", "th"]

/-- Elements in which text has no place of its own in a table. -/
def tableContext : List String := ["table", "tbody", "tfoot", "thead", "tr"]

/-- Elements that end text of another vocabulary when they start in it. -/
def breakout : List String :=
  ["b", "big", "blockquote", "body", "br", "center", "code", "dd", "div", "dl", "dt", "em", "embed",
    "h1", "h2", "h3", "h4", "h5", "h6", "head", "hr", "i", "img", "li", "listing", "menu", "meta",
    "nobr", "ol", "p", "pre", "ruby", "s", "small", "span", "strong", "strike", "sub", "sup",
    "table", "tt", "u", "ul", "var"]

/-- Elements of the vocabulary of formulas that hold ordinary text. -/
def isMathText (e : Element) : Bool :=
  e.vocabulary == .math && ["mi", "mo", "mn", "ms", "mtext"].contains e.name

/-- Elements of the vocabulary of drawings that hold a document. -/
def isSvgText (e : Element) : Bool :=
  e.vocabulary == .svg && ["foreignObject", "desc", "title"].contains e.name

/-- Where the search for an open element ends. -/
inductive Scope where
  | usual | listItem | button | table
deriving DecidableEq

/-- Whether an element ends the search in a scope. -/
def Scope.stopsAt (s : Scope) (e : Element) : Bool :=
  let usual :=
    e.isHtmlIn ["applet", "caption", "html", "table", "td", "th", "marquee", "object", "select",
      "template"]
      || isMathText e || isSvgText e
  match s with
  | .usual => usual
  | .listItem => usual || e.isHtmlIn ["ol", "ul"]
  | .button => usual || e.isHtml "button"
  | .table => e.isHtmlIn ["html", "table", "template"]

end Gamebook.Html.Category
