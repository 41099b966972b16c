import Gamebook.Json.Decode
import Gamebook.Markup.Config

/-!
# Render settings in data files

Every setting that is not given has its usual value.
-/

namespace Gamebook.RenderConfig

/-- The data form. -/
def toJson (c : RenderConfig) : Json :=
  .object [("maxIfDepth", .nat c.maxIfDepth),
    ("assetExtensions", .array (c.assetExtensions.map .string)),
    ("videoExtensions", .array (c.videoExtensions.map .string))]

/-- The settings of a data form. -/
def ofJson? (v : Json) : Option RenderConfig := do
  let usual : RenderConfig := default
  let r ← v.record? ["maxIfDepth", "assetExtensions", "videoExtensions"]
  some ⟨← r.orElse? "maxIfDepth" (Json.natOfBits? 64) usual.maxIfDepth,
    ← r.orElse? "assetExtensions" (Json.list? Json.string?) usual.assetExtensions,
    ← r.orElse? "videoExtensions" (Json.list? Json.string?) usual.videoExtensions⟩

end Gamebook.RenderConfig
