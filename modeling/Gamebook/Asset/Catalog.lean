import Gamebook.Markup.Config
import Gamebook.SortedMap

/-!
# Asset catalogs

The asset files that a story comes with. A name finds the file of exactly that name or else the
first file that is the name with one of the extensions.
-/

namespace Gamebook

/-- The known asset files, the extensions that a name may leave out, in the order in which they are
tried, and where the files are served. -/
structure Catalog where
  files : SortedMap String Unit
  extensions : List String
  base : String
deriving DecidableEq

namespace Catalog

/-- Where asset files are served unless something else is said. -/
def usualBase : String := "assets/"

/-- The catalog of some files. -/
def ofFiles (config : RenderConfig) (files : List String) (base : String := usualBase) : Catalog :=
  ⟨SortedMap.ofList (files.map (·, ())), config.assetExtensions, base⟩

/-- The names that a reference may stand for, the bare one first. -/
def candidates (c : Catalog) (name : String) : List String :=
  name :: c.extensions.map fun ext => name ++ "." ++ ext

/-- The file that a reference names. -/
def find? (c : Catalog) (name : String) : Option String :=
  (c.candidates name).find? c.files.contains

/-- Whether a reference names a file. -/
def contains (c : Catalog) (name : String) : Bool := (c.find? name).isSome

/-- Where the file that a reference names is served. -/
def address? (c : Catalog) (name : String) : Option String := (c.find? name).map (c.base ++ ·)

end Catalog
end Gamebook
