import Gamebook.Asset.Catalog
import Gamebook.Conditional.Segment
import Gamebook.Directive.Scan
import Gamebook.Graph.Reach
import Gamebook.Json.Decode
import Gamebook.Page.Json

/-!
# Diagnostics

What an author is told about a story: pages that are empty, that no reader reaches or from which
none gets on, blocks that do not match, and assets and pages that are missing. None of it stops a
page from being rendered.
-/

namespace Gamebook

/-- How much a diagnostic matters. -/
inductive Severity where
  | error | warning | info
deriving DecidableEq, Repr

/-- Something an author is told. -/
structure Diagnostic where
  severity : Severity
  page : Option PageId
  message : String
deriving DecidableEq

/-- What can be wrong with a page. -/
inductive Finding where
  | blank
  | unreachable
  | deadEnd (next : PageId)
  | plainBlocks (cause : Segment.Unbalanced)
  | missingAsset (name : String)
  | missingTarget (letter : Char) (target : PageId)
deriving DecidableEq

namespace Severity

/-- All severities. -/
def all : List Severity := [error, warning, info]

/-- The written word. -/
def word : Severity → String
  | error => "error"
  | warning => "warning"
  | info => "info"

/-- The word in capitals. -/
def heading : Severity → String
  | error => "ERROR"
  | warning => "WARNING"
  | info => "INFO"

/-- The severity of a data form. -/
def ofJson? (v : Json) : Option Severity := v.wordIn? fun s => all.find? fun x => x.word == s

end Severity

namespace Diagnostic

/-- The data form. -/
def toJson (d : Diagnostic) : Json :=
  .object [("severity", .string d.severity.word), ("page", (d.page.map PageId.toJson).getD .null),
    ("message", .string d.message)]

/-- The diagnostic of a data form. -/
def ofJson? (v : Json) : Option Diagnostic := do
  let r ← v.record? ["severity", "page", "message"]
  some ⟨← r.required? "severity" Severity.ofJson?, ← r.nullable? "page" PageId.ofJson?,
    ← r.required? "message" Json.string?⟩

end Diagnostic

namespace Finding

/-- How much a finding matters. -/
def severity : Finding → Severity
  | missingTarget _ _ => .info
  | _ => .warning

/-- What an author is told. -/
def message : Finding → String
  | blank => "Page is empty."
  | unreachable => "Page is not reachable from page " ++ toString PageId.root ++ "."
  | deadEnd next =>
    "Dead end: no choices and continuation page " ++ toString next ++ " does not exist."
  | plainBlocks cause => "Conditional is shown as plain text: " ++ cause.message
  | missingAsset name => "Missing asset \"" ++ name ++ "\"."
  | missingTarget letter target =>
    "Choice " ++ letter.toString ++ " leads to missing page " ++ toString target ++ "."

/-- The diagnostic of a finding at a page. -/
def diagnostic (page : PageId) (f : Finding) : Diagnostic := ⟨f.severity, some page, f.message⟩

end Finding

/-- The diagnostic of a story without a first page. -/
def Diagnostic.missingRoot : Diagnostic :=
  ⟨.error, none, "Missing root page " ++ toString PageId.root ++ "."⟩

namespace Pages

/-- Where a reader gets stuck on a page: it is no ending, has no choices, and what would follow does
not exist. -/
def deadEnd? (pages : Pages) (id : PageId) (page : Page) : Option PageId :=
  if !page.isEnding ∧ page.choices = [] ∧ !pages.contains id.continuation then some id.continuation
  else none

/-- Why the blocks of a page do not match, if they do not. -/
def unbalanced? (config : RenderConfig) (page : Page) : Option Segment.Unbalanced :=
  match Segment.parse (some config.maxIfDepth) page.content.toList with
  | .ok _ => none
  | .error cause => some cause

/-- The assets of a page that a catalog does not find. -/
def missingAssets (catalog : Catalog) (page : Page) : List String :=
  ((Directive.assets page.content.toList).map (·.name)).filter fun name => !catalog.contains name

/-- The letters of choices that lead to a page that does not exist, and that page. -/
def missingTargets (pages : Pages) (id : PageId) (page : Page) : List (Char × PageId) :=
  page.choices.filterMap fun c =>
    ((c.target? id).filter fun target => !pages.contains target).map (c.letter, ·)

/-- All that is wrong with a page. -/
def findingsAt (pages reached : Pages) (catalog : Catalog) (config : RenderConfig) (id : PageId)
    (page : Page) : List Finding :=
  (if Text.trim page.content.toList = [] ∧ !page.isEnding then [.blank] else [])
    ++ (if reached.contains id then [] else [.unreachable])
    ++ (pages.deadEnd? id page).toList.map .deadEnd
    ++ (unbalanced? config page).toList.map .plainBlocks
    ++ (missingAssets catalog page).map .missingAsset
    ++ (pages.missingTargets id page).map fun (letter, target) => .missingTarget letter target

/-- What an author is told about a story with certain asset files, page by page. -/
def diagnostics (pages : Pages) (config : RenderConfig) (assets : List String) : List Diagnostic :=
  let catalog := Catalog.ofFiles config assets Catalog.usualBase
  let reached := pages.reachable .root
  (if pages.contains .root then [] else [.missingRoot])
    ++ pages.entries.flatMap fun (id, page) =>
      (pages.findingsAt reached catalog config id page).map (Finding.diagnostic id)

end Pages
end Gamebook
