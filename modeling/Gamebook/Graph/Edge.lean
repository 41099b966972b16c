import Gamebook.Graph.Reach
import Gamebook.Json.Decode
import Gamebook.Page.Json

/-!
# Edges

The moves between pages as they are drawn on a map of the story: choices that have words, with them,
and continuations, without.
-/

namespace Gamebook

/-- A move from one page to another, labelled if it is a choice. -/
structure Edge where
  source : PageId
  target : PageId
  label : Option String
deriving DecidableEq

/-- A map of a story. -/
structure StoryMap where
  root : PageId
  reachable : Pages
  kinds : SortedMap PageId PageKind
  edges : List Edge

namespace Edge

/-- The data form. -/
def toJson (e : Edge) : Json :=
  .ofFields [("source", some e.source.toJson), ("target", some e.target.toJson),
    ("label", e.label.map .string)]

/-- The edge of a data form. -/
def ofJson? (v : Json) : Option Edge := do
  let r ← v.record? ["source", "target", "label"]
  some ⟨← r.required? "source" PageId.ofJson?, ← r.required? "target" PageId.ofJson?,
    ← r.orElse? "label" (Json.nullable? Json.string?) none⟩

end Edge

namespace Pages

/-- The edge of a choice that has words and leads to a page that exists. -/
def choiceEdge? (pages : Pages) (source : PageId) (c : Choice) : Option Edge :=
  if Text.trim c.text.toList = [] then none
  else ((c.target? source).filter pages.contains).map fun target => ⟨source, target, some c.text⟩

/-- The edges that leave a page. -/
def edgesFrom (pages : Pages) (id : PageId) (page : Page) : List Edge :=
  if page.isEnding then []
  else if page.choices ≠ [] then page.choices.filterMap (pages.choiceEdge? id)
  else ([id.continuation].filter pages.contains).map fun target => ⟨id, target, none⟩

/-- All edges in the order of the pages. -/
def edges (pages : Pages) : List Edge :=
  pages.entries.flatMap fun (id, page) => pages.edgesFrom id page

/-- The map of the story that starts at the first page. -/
def storyMap (pages : Pages) : StoryMap where
  root := .root
  reachable := pages.reachable .root
  kinds := pages.classify (pages.reachable .root)
  edges := pages.edges

end Pages

namespace PageKind

/-- The written word. -/
def word : PageKind → String
  | normal => "normal"
  | choice => "choice"
  | ending => "ending"
  | orphan => "orphan"

end PageKind

namespace StoryMap

/-- The pages that cannot be reached. -/
def orphans (m : StoryMap) : List PageId := (m.kinds.filter fun _ kind => kind == .orphan).keys

end StoryMap
end Gamebook
