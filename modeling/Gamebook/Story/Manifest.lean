import Gamebook.Markup.Json
import Gamebook.Page.Json

/-!
# Manifests

What a story says about itself: its title and author, which pages are endings, and how it is
rendered.
-/

namespace Gamebook

/-- What a story says about itself. -/
structure Manifest where
  title : Option String := none
  author : Option String := none
  description : Option String := none
  endings : SortedMap PageId Unit := .empty
  config : RenderConfig := {}
deriving DecidableEq

namespace Manifest

instance : Inhabited Manifest := ⟨{}⟩

/-- The data form. -/
def toJson (m : Manifest) : Json :=
  .ofFields [("title", m.title.map .string), ("author", m.author.map .string),
    ("description", m.description.map .string),
    ("endings",
      if m.endings.isEmpty then none else some (.array (m.endings.keys.map PageId.toJson))),
    ("render", some m.config.toJson)]

/-- A set of pages. -/
def endingsOf (ids : List PageId) : SortedMap PageId Unit := SortedMap.ofList (ids.map (·, ()))

/-- The manifest of a data form; nothing in it is required. -/
def ofJson? (v : Json) : Option Manifest := do
  let r ← v.record? ["title", "author", "description", "endings", "render"]
  let text (name : String) : Option (Option String) :=
    r.orElse? name (Json.nullable? Json.string?) none
  some ⟨← text "title", ← text "author", ← text "description",
    endingsOf (← r.orElse? "endings" (Json.list? PageId.ofJson?) []),
    ← r.orElse? "render" RenderConfig.ofJson? default⟩

end Manifest
end Gamebook
