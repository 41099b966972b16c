import Gamebook.Text.Basic

/-!
# Render settings

How deep conditional blocks may be nested, which extensions are tried for an asset named without
one, and which extensions are shown by a video element.
-/

namespace Gamebook

/-- The settings under which pages are rendered. -/
structure RenderConfig where
  maxIfDepth : Nat := 16
  assetExtensions : List String :=
    ["png", "jpg", "jpeg", "gif", "webp", "svg", "mp4", "webm", "mp3", "ogg", "wav"]
  videoExtensions : List String := ["mp4", "webm", "ogv"]
deriving DecidableEq

namespace RenderConfig

instance : Inhabited RenderConfig := ⟨{}⟩

/-- Whether an asset of this name is shown by a video element: its name in lower case ends in a dot
and one of the extensions for videos. -/
def isVideo (config : RenderConfig) (name : Text) : Bool :=
  config.videoExtensions.any fun ext => ('.' :: ext.toList).isSuffixOf (Text.lower name)

end RenderConfig
end Gamebook
