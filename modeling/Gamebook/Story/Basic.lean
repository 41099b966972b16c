import Gamebook.Graph.Diagnostic
import Gamebook.Play.Snapshot
import Gamebook.Story.Manifest

/-!
# Stories

A story is its pages, the names of its asset files, and a manifest if it has one. It is played,
rendered page by page, and checked under the settings of its manifest.
-/

namespace Gamebook

/-- A loaded story. -/
structure Story where
  pages : Pages
  assets : SortedMap String Unit
  manifest : Option Manifest
deriving DecidableEq

namespace Story

/-- The settings under which the story is rendered. -/
def config (s : Story) : RenderConfig := (s.manifest.map (·.config)).getD default

/-- The title, if the story has one. -/
def title? (s : Story) : Option String := s.manifest.bind (·.title)

/-- The asset files and where they are found. -/
def catalog (s : Story) : Catalog := .ofFiles s.config s.assets.keys Catalog.usualBase

/-- The stage on which the story is played. -/
def stage (s : Story) (allowed : Html.AllowList) (initial : Variables) : Stage where
  pages := s.pages
  config := s.config
  catalog := some s.catalog
  allowed := allowed
  initial := initial

/-- A page outside a play, rendered for a reader with variables `vars`; `none` if there is no such
page. -/
def renderPage? (s : Story) (id : PageId) (vars : Variables) : Option Rendering :=
  (s.pages.get? id).map fun page =>
    let r := page.render s.config .story vars
    { r with html := Asset.resolveSources s.catalog r.html }

/-- What an author is told about the story. -/
def diagnostics (s : Story) : List Diagnostic := s.pages.diagnostics s.config s.assets.keys

/-- The report of a page that cannot be rendered because it does not exist. -/
def pageNotFound (id : PageId) : Fault :=
  ⟨"API_PAGE_NOT_FOUND", "Page " ++ toString id ++ " does not exist.", some id⟩

end Story
end Gamebook
