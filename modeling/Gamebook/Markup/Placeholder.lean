import Gamebook.Directive.Scan
import Gamebook.Html.Escape
import Gamebook.Markup.Config

/-!
# Asset placeholders

An asset token becomes a media element whose source is the name behind `asset:`. Which file that is
is decided later, by a catalog.
-/

namespace Gamebook.Markup

/-- The classes of an asset's element. -/
def assetClass : Option AssetSize → String
  | none => "story-asset"
  | some size => "story-asset " ++ size.className

/-- The element that holds the place of an asset. -/
def placeholder (config : RenderConfig) (ref : AssetRef) : Text :=
  let name := Html.attributeText ref.name.toList
  let cls := (assetClass ref.size).toList
  if config.isVideo ref.name.toList then
    "<video src=\"asset:".toList ++ name ++ "\" class=\"".toList ++ cls
      ++ "\" controls preload=\"metadata\"></video>".toList
  else
    "<img src=\"asset:".toList ++ name ++ "\" alt=\"".toList ++ name ++ "\" class=\"".toList ++ cls
      ++ "\">".toList

/-- The text with a placeholder for each asset token. -/
def placeholders (config : RenderConfig) (t : Text) : Text :=
  Directive.replaceAssets (placeholder config) t

end Gamebook.Markup
