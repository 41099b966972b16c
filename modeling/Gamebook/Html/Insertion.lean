import Gamebook.Html.Adoption
import Gamebook.Html.Foreign

/-!
# Placing tokens

One function for each setting says what a token does to the state. Where a token first ends the
setting and is then to be placed again, the answer says so; every such round leaves an element or a
setting, so `place` bounds the rounds by the number of open elements.
-/

namespace Gamebook.Html.Builder

/-- A state, and whether the token is to be placed again in it. -/
abbrev Placed := Builder × Bool

/-- The token has its place. -/
def done (b : Builder) : Placed := (b, false)

/-- The token is to be placed again. -/
def again (b : Builder) : Placed := (b, true)

/-- Inserts an element of another vocabulary. -/
def insertForeign (b : Builder) (e : Element) (selfClosing : Bool) : Builder :=
  if selfClosing then (b.insertClosed e).1 else (b.insertAt e).1

/-- The start of an element that belongs into a document's head. -/
def startMetadata (b : Builder) (name : String) (attributes : List Attribute) : Builder :=
  match name with
  | "title" => b.insertReading name attributes (.untilTag name true)
  | "noframes" | "style" => b.insertReading name attributes (.untilTag name false)
  | "script" => b.insertReading name attributes .script
  | "template" =>
    let b := b.addBorder.insert name attributes
    { b with setting := .template, templates := .template :: b.templates }
  | _ => b.insertVoid name attributes

/-- The end of a template. -/
def endTemplate (b : Builder) : Builder :=
  if b.isOpen "template" then
    let b := (b.closeImplied Category.impliedEndOfTemplate).popUntilName "template"
    let b := b.clearFormatting
    ({ b with templates := b.templates.drop 1 }).resetSetting
  else b

/-- The start of a list item, which ends the one before it. -/
def startItem (b : Builder) (name : String) (attributes : List Attribute) : Builder :=
  let ends := if name = "li" then ["li"] else ["dd", "dt"]
  let stops := Category.special.filter fun s => s ∉ ["address", "div", "p"]
  let inner := b.opened.takeWhile fun n =>
    let e := b.element n
    !e.isHtmlIn ends && !e.isHtmlIn stops
  let b := match b.opened.drop inner.length with
    | n :: _ =>
      let e := b.element n
      if e.isHtmlIn ends then (b.closeImpliedExcept e.name).popUntilName e.name else b
    | [] => b
  b.closeParagraphInScope.insert name attributes

/-- The start of a link, which ends one that is still open. -/
def startLink (b : Builder) (attributes : List Attribute) : Builder :=
  let isLink (f : Formatting) : Bool := match f with
    | .element _ name _ => name == "a"
    | .border => false
  let b := match b.recent.find? isLink with
    | some (.element n _ _) => ((b.closeFormatting "a").forget n).removeOpen n
    | _ => b
  b.reconstruct.insertFormatting "a" attributes

/-- Closes the option that another one follows: in a selection with all elements around it that may
be closed unsaid, elsewhere alone. -/
def closeOption (b : Builder) (implied : List String) : Builder :=
  if b.nameInScope .usual "select" then b.closeImplied implied
  else if b.isCurrent "option" then b.pop
  else b

/-- The start of an element in the body of a document. -/
def startInBody (b : Builder) (name : String) (attributes : List Attribute) (selfClosing : Bool) :
    Builder :=
  if Category.metadata.contains name then b.startMetadata name attributes
  else if Category.blocks.contains name then b.closeParagraphInScope.insert name attributes
  else if Category.headings.contains name then
    let b := b.closeParagraphInScope
    (if b.isCurrentIn Category.headings then b.pop else b).insert name attributes
  else if Category.formatting.contains name then b.reconstruct.insertFormatting name attributes
  else if Category.voidInline.contains name then b.reconstruct.insertVoid name attributes
  else
    match name with
    | "html" | "body" | "frameset" | "caption" | "col" | "colgroup" | "frame" | "head" | "tbody"
    | "td" | "tfoot" | "th" | "thead" | "tr" => b
    | "pre" | "listing" =>
      { b.closeParagraphInScope.insert name attributes with skipLineFeed := true }
    | "form" =>
      if b.form.isSome && !b.isOpen "template" then b
      else
        let (b, n) := b.closeParagraphInScope.insertAt { name := name, attributes := attributes }
        if b.isOpen "template" then b else { b with form := some n }
    | "li" | "dd" | "dt" => b.startItem name attributes
    | "plaintext" => { b.closeParagraphInScope.insert name attributes with reading := .plain }
    | "button" =>
      let b := if b.nameInScope .usual name then
          (b.closeImplied Category.impliedEnd).popUntilName name
        else b
      b.reconstruct.insert name attributes
    | "a" => b.startLink attributes
    | "nobr" =>
      let b := b.reconstruct
      let b := if b.nameInScope .usual name then (b.closeFormatting name).reconstruct else b
      b.insertFormatting name attributes
    | "applet" | "marquee" | "object" => (b.reconstruct.insert name attributes).addBorder
    | "table" => (b.closeParagraphInScope.insert name attributes).enter .table
    | "param" | "source" | "track" => b.insertVoid name attributes
    | "hr" =>
      let b := b.closeParagraphInScope
      (if b.nameInScope .usual "select" then b.closeImplied Category.impliedEnd else b).insertVoid
        name attributes
    | "input" =>
      (if b.nameInScope .usual "select" then b.popUntilName "select" else b).reconstruct.insertVoid
        name attributes
    | "image" => b.reconstruct.insertVoid "img" attributes
    | "textarea" =>
      { b.insertReading name attributes (.untilTag name true) with skipLineFeed := true }
    | "xmp" =>
      b.closeParagraphInScope.reconstruct.insertReading name attributes (.untilTag name false)
    | "iframe" | "noembed" | "noscript" => b.insertReading name attributes (.untilTag name false)
    | "select" =>
      if b.nameInScope .usual name then b.popUntilName name
      else b.reconstruct.insert name attributes
    | "optgroup" => (b.closeOption Category.impliedEnd).reconstruct.insert name attributes
    | "option" =>
      (b.closeOption (Category.impliedEnd.filter (· ≠ "optgroup"))).reconstruct.insert name
        attributes
    | "rb" | "rtc" =>
      (if b.nameInScope .usual "ruby" then b.closeImplied Category.impliedEnd else b).insert
        name attributes
    | "rp" | "rt" =>
      (if b.nameInScope .usual "ruby" then b.closeImpliedExcept "rtc" else b).insert name attributes
    | "math" => b.reconstruct.insertForeign (Foreign.ofTag .math false name attributes) selfClosing
    | "svg" => b.reconstruct.insertForeign (Foreign.ofTag .svg false name attributes) selfClosing
    | _ => b.reconstruct.insert name attributes

/-- The end of a form. -/
def endForm (b : Builder) : Builder :=
  if b.isOpen "template" then
    if b.nameInScope .usual "form" then
      (b.closeImplied Category.impliedEnd).popUntilName "form"
    else b
  else
    match b.form with
    | none => b
    | some n =>
      let b := { b with form := none }
      if b.inScope .usual fun m => m == n then (b.closeImplied Category.impliedEnd).removeOpen n
      else b

/-- The end of an element in the body of a document. -/
def endInBody (b : Builder) (name : String) : Builder :=
  if Category.closable.contains name then
    if b.nameInScope .usual name then (b.closeImplied Category.impliedEnd).popUntilName name else b
  else if Category.headings.contains name then
    if b.inScope .usual fun n => (b.element n).isHtmlIn Category.headings then
      (b.closeImplied Category.impliedEnd).popUntil fun e => e.isHtmlIn Category.headings
    else b
  else if Category.formatting.contains name then b.closeFormatting name
  else
    match name with
    | "body" | "html" => b
    | "template" => b.endTemplate
    | "a" | "nobr" => b.closeFormatting name
    | "form" => b.endForm
    | "p" => (if b.nameInScope .button name then b else b.insert name []).closeParagraph
    | "li" =>
      if b.nameInScope .listItem name then (b.closeImpliedExcept name).popUntilName name else b
    | "dd" | "dt" =>
      if b.nameInScope .usual name then (b.closeImpliedExcept name).popUntilName name else b
    | "applet" | "marquee" | "object" =>
      if b.nameInScope .usual name then
        ((b.closeImplied Category.impliedEnd).popUntilName name).clearFormatting
      else b
    | "br" => b.startInBody name [] false
    | _ => b.closeOther name

/-- A token in the body of a document. -/
def inBody (b : Builder) : Token → Builder
  | .text run => b.reconstruct.addText run
  | .startTag name attributes selfClosing => b.startInBody name attributes selfClosing
  | .endTag name => b.endInBody name
  | .nul | .comment => b

/-- A token in the text of an element. -/
def inText (b : Builder) : Token → Builder
  | .text run => b.addText run
  | .endTag _ => b.pop.enter b.outer
  | _ => b

/-- A token that has no place in a table and goes in front of it. -/
def inFrontOfTable (b : Builder) (t : Token) : Builder :=
  { ({ b with fostering := true }).inBody t with fostering := false }

/-- Text or a null character in a table. -/
def textInTable (b : Builder) (t : Token) : Placed :=
  if b.isCurrentIn Category.tableContext then
    again { b with outer := b.setting, setting := .tableText }
  else done (b.inFrontOfTable t)

/-- Whether an input is hidden. -/
def isHidden (attributes : List Attribute) : Bool :=
  attributes.any fun a => a.name == "type" && Text.lower a.value.toList == "hidden".toList

/-- Leaves a table that is in scope. -/
def leaveTable (b : Builder) : Builder := (b.popUntilName "table").resetSetting

/-- Closes elements until a table is the innermost. -/
def backToTable (b : Builder) : Builder :=
  b.popWhileNot fun e => e.isHtmlIn ["table", "template", "html"]

/-- Closes elements until a part of a table that holds rows is the innermost. -/
def backToTableBody (b : Builder) : Builder :=
  b.popWhileNot fun e => e.isHtmlIn ["tbody", "tfoot", "thead", "template", "html"]

/-- Closes elements until a row is the innermost. -/
def backToRow (b : Builder) : Builder :=
  b.popWhileNot fun e => e.isHtmlIn ["tr", "template", "html"]

/-- A token in a table. -/
def inTable (b : Builder) (t : Token) : Placed :=
  match t with
  | .text _ | .nul => b.textInTable t
  | .comment => done b
  | .startTag name attributes _ =>
    match name with
    | "caption" => done ((b.backToTable.addBorder.insert name attributes).enter .caption)
    | "colgroup" => done ((b.backToTable.insert name attributes).enter .columnGroup)
    | "col" => again ((b.backToTable.insert "colgroup" []).enter .columnGroup)
    | "tbody" | "tfoot" | "thead" =>
      done ((b.backToTable.insert name attributes).enter .tableBody)
    | "td" | "th" | "tr" => again ((b.backToTable.insert "tbody" []).enter .tableBody)
    | "table" => if b.nameInScope .table name then again b.leaveTable else done b
    | "style" | "script" | "template" => done (b.startMetadata name attributes)
    | "input" =>
      if isHidden attributes then done (b.insertVoid name attributes) else done (b.inFrontOfTable t)
    | "form" =>
      if b.isOpen "template" || b.form.isSome then done b
      else
        let (b, n) := b.insertClosed { name := name, attributes := attributes }
        done { b with form := some n }
    | _ => done (b.inFrontOfTable t)
  | .endTag name =>
    match name with
    | "table" => done (if b.nameInScope .table name then b.leaveTable else b)
    | "body" | "caption" | "col" | "colgroup" | "html" | "tbody" | "td" | "tfoot" | "th" | "thead"
    | "tr" => done b
    | "template" => done b.endTemplate
    | _ => done (b.inFrontOfTable t)

/-- Gives the text of a table its place: in front of the table if it is not all blank. -/
def placeTableText (b : Builder) : Builder :=
  let runs := b.pending
  let b := { b with pending := [], setting := b.outer }
  if runs.any fun run => !run.all Token.isBlank then
    runs.foldl (fun b run => b.inFrontOfTable (.text run)) b
  else runs.foldl (fun b run => b.addText run) b

/-- A token while the text of a table is collected. -/
def inTableText (b : Builder) : Token → Placed
  | .text run => done { b with pending := b.pending ++ [run] }
  | .nul => done b
  | _ => again b.placeTableText

/-- The start and end tags that end a caption or a cell. -/
def tableParts : List String :=
  ["caption", "col", "colgroup", "tbody", "td", "tfoot", "th", "thead", "tr"]

/-- A token in the caption of a table. -/
def inCaption (b : Builder) (t : Token) : Placed :=
  let leave (next : Builder → Placed) : Placed :=
    if b.nameInScope .table "caption" then
      let b := ((b.closeImplied Category.impliedEnd).popUntilName "caption").clearFormatting
      next (b.enter .table)
    else done b
  match t with
  | .startTag name _ _ => if tableParts.contains name then leave again else done (b.inBody t)
  | .endTag name =>
    if name = "table" then leave again
    else if name = "caption" then leave done
    else if name = "body" ∨ name = "html" ∨ tableParts.contains name then done b
    else done (b.inBody t)
  | t => done (b.inBody t)

/-- A token in a group of columns. -/
def inColumnGroup (b : Builder) (t : Token) : Placed :=
  let other : Placed := if b.isCurrent "colgroup" then again (b.pop.enter .table) else done b
  match t with
  | .text run => if run.all Token.isBlank then done (b.addText run) else other
  | .comment => done b
  | .startTag "html" _ _ => done b
  | .startTag "col" attributes _ => done (b.insertVoid "col" attributes)
  | .startTag "template" attributes _ => done (b.startMetadata "template" attributes)
  | .endTag "template" => done b.endTemplate
  | .endTag "colgroup" => done (if b.isCurrent "colgroup" then b.pop.enter .table else b)
  | .endTag "col" => done b
  | _ => other

/-- A token in a part of a table that holds rows. -/
def inTableBody (b : Builder) (t : Token) : Placed :=
  let leave : Placed :=
    if b.inScope .table fun n => (b.element n).isHtmlIn ["table", "tbody", "tfoot"] then
      again (b.backToTableBody.pop.enter .table)
    else done b
  match t with
  | .startTag name attributes _ =>
    match name with
    | "tr" => done ((b.backToTableBody.insert name attributes).enter .row)
    | "th" | "td" => again ((b.backToTableBody.insert "tr" []).enter .row)
    | "caption" | "col" | "colgroup" | "tbody" | "tfoot" | "thead" => leave
    | _ => b.inTable t
  | .endTag name =>
    match name with
    | "tbody" | "tfoot" | "thead" =>
      done (if b.nameInScope .table name then b.backToTableBody.pop.enter .table else b)
    | "table" => leave
    | "body" | "caption" | "col" | "colgroup" | "html" | "td" | "th" | "tr" => done b
    | _ => b.inTable t
  | t => b.inTable t

/-- A token in a row of a table. -/
def inRow (b : Builder) (t : Token) : Placed :=
  let leave (next : Builder → Placed) : Placed :=
    if b.nameInScope .table "tr" then next (b.backToRow.pop.enter .tableBody) else done b
  match t with
  | .startTag name attributes _ =>
    match name with
    | "th" | "td" => done ((b.backToRow.insert name attributes).enter .cell).addBorder
    | "caption" | "col" | "colgroup" | "tbody" | "tfoot" | "thead" | "tr" => leave again
    | _ => b.inTable t
  | .endTag name =>
    match name with
    | "tr" => leave done
    | "table" => leave again
    | "tbody" | "tfoot" | "thead" => if b.nameInScope .table name then leave again else done b
    | "body" | "caption" | "col" | "colgroup" | "html" | "td" | "th" => done b
    | _ => b.inTable t
  | t => b.inTable t

/-- Closes the open cell of a table. -/
def closeCell (b : Builder) : Builder :=
  let b := (b.closeImplied Category.impliedEnd).popUntil fun e => e.isHtmlIn Category.cells
  b.clearFormatting.enter .row

/-- A token in a cell of a table. -/
def inCell (b : Builder) (t : Token) : Placed :=
  match t with
  | .startTag name _ _ =>
    if tableParts.contains name then
      if b.inScope .table fun n => (b.element n).isHtmlIn Category.cells then again b.closeCell
      else done b
    else done (b.inBody t)
  | .endTag name =>
    match name with
    | "td" | "th" =>
      if b.nameInScope .table name then
        let b := ((b.closeImplied Category.impliedEnd).popUntilName name).clearFormatting
        done (b.enter .row)
      else done b
    | "body" | "caption" | "col" | "colgroup" | "html" => done b
    | "table" | "tbody" | "tfoot" | "thead" | "tr" =>
      if b.nameInScope .table name then again b.closeCell else done b
    | _ => done (b.inBody t)
  | t => done (b.inBody t)

/-- A token directly in a template, which decides the setting of the template. -/
def inTemplate (b : Builder) (t : Token) : Placed :=
  let become (s : Setting) : Placed :=
    again { b with templates := s :: b.templates.drop 1, setting := s }
  match t with
  | .startTag name attributes _ =>
    if Category.metadata.contains name then done (b.startMetadata name attributes)
    else
      match name with
      | "caption" | "colgroup" | "tbody" | "tfoot" | "thead" => become .table
      | "col" => become .columnGroup
      | "tr" => become .tableBody
      | "td" | "th" => become .row
      | _ => become .body
  | .endTag name => done (if name = "template" then b.endTemplate else b)
  | t => done (b.inBody t)

/-- A token in the setting of the state. -/
def inSetting (b : Builder) (t : Token) : Placed :=
  match b.setting with
  | .body => done (b.inBody t)
  | .text => done (b.inText t)
  | .table => b.inTable t
  | .tableText => b.inTableText t
  | .caption => b.inCaption t
  | .columnGroup => b.inColumnGroup t
  | .tableBody => b.inTableBody t
  | .row => b.inRow t
  | .cell => b.inCell t
  | .template => b.inTemplate t

/-- Whether an element of formulas with annotations holds a document, as its encoding says. -/
def holdsDocument (e : Element) : Bool :=
  e.attributes.any fun a => a.name == "encoding"
    && ["text/html", "application/xhtml+xml"].contains (String.ofList (Text.lower a.value.toList))

/-- Whether a token belongs to another vocabulary than that of documents. -/
def isForeign (b : Builder) (t : Token) : Bool :=
  let e := b.adjustedCurrent
  let isText := match t with
    | .text _ | .nul => true
    | _ => false
  let startName? := match t with
    | .startTag name _ _ => some name
    | _ => none
  if e.vocabulary == .html then false
  else if Category.isMathText e
      && (isText || startName?.any fun n => n != "mglyph" && n != "malignmark") then false
  else if Category.isSvgText e && (isText || startName?.isSome) then false
  else if e.vocabulary == .math && e.name == "annotation-xml" then
    if startName? = some "svg" then false
    else if isText || startName?.isSome then !holdsDocument e
    else true
  else true

/-- The end of an element of another vocabulary: the innermost of its name up to case, unless an
element of a document is open in it. Open elements are given innermost first. -/
def endForeign (b : Builder) (name : String) (isFirst : Bool) : List Nat → Placed
  | [] => done b
  | [_] => done b
  | n :: ns =>
    let e := b.element n
    if ¬isFirst ∧ e.vocabulary = .html then b.inSetting (.endTag name)
    else if Text.lower e.name.toList = name.toList then done { b with opened := ns }
    else endForeign b name false ns

/-- Whether a start tag ends text of another vocabulary. -/
def breaksOut (name : String) (attributes : List Attribute) : Bool :=
  Category.breakout.contains name
    || (name == "font" && attributes.any fun a => ["color", "face", "size"].contains a.name)

/-- Leaves text of another vocabulary. -/
def leaveForeign (b : Builder) : Builder :=
  b.popWhileNot fun e => e.vocabulary == .html || Category.isMathText e || Category.isSvgText e

/-- A token in another vocabulary. -/
def inForeign (b : Builder) (t : Token) : Placed :=
  match t with
  | .text run => done (b.addText run)
  | .nul => done (b.addText [Reference.replacement])
  | .comment => done b
  | .startTag name attributes selfClosing =>
    if breaksOut name attributes then b.leaveForeign.inSetting t
    else
      let e := Foreign.ofTag b.adjustedCurrent.vocabulary true name attributes
      done (b.insertForeign e selfClosing)
  | .endTag name =>
    if name = "br" ∨ name = "p" then b.leaveForeign.inSetting t
    else b.endForeign name true b.opened

/-- Places a token, in at most `rounds` rounds. -/
def placeIn : Nat → Builder → Token → Builder
  | 0, b, _ => b
  | rounds + 1, b, t =>
    let (b, isAgain) := if b.isForeign t then b.inForeign t else b.inSetting t
    if isAgain then placeIn rounds b t else b

/-- Places a token. A line feed right after the start of some elements is dropped. -/
def place (b : Builder) (t : Token) : Builder :=
  let skip := b.skipLineFeed
  let b := { b with skipLineFeed := false }
  let rounds := b.opened.length + 16
  match t with
  | .text ('\n' :: run) =>
    if skip then if run = [] then b else placeIn rounds b (.text run) else placeIn rounds b t
  | t => placeIn rounds b t

/-- Reads a text to its end; each token takes a character, so its length bounds the rounds. -/
def read : Nat → Builder → Text → Builder
  | 0, b, _ => b
  | _, b, [] => b
  | rounds + 1, b, t =>
    let foreign := b.adjustedCurrent.vocabulary != .html
    let (token, rest, reading) := Token.next b.reading foreign t
    let b := { b with reading := reading }
    read rounds ((Token.pieces token).foldl place b) rest

/-- The end of the text. -/
def finish (b : Builder) : Builder := if b.setting = .tableText then b.placeTableText else b

end Gamebook.Html.Builder
