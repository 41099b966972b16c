import Gamebook.Proofs.Graph.MissingAssets

/-!
# The elements of assets

Which element shows an asset is decided from its name as the page has it, before a catalog finds the file. So
the element fits the file where the name is that of the file, and where the extension that is added to the
name does not make it a video.
-/

namespace Gamebook

open Text Html Asset Markup

namespace Asset

/-- A tag whose placeholder finds a file has the address of the file for its source. -/
theorem resolveTag_of_find? {e : Element} (h : e.Sanitized storyNames) {c : Catalog} {name file : String}
    (hp : placeholder? e.attributes = some name.toList) (hf : c.find? name = some file) :
    ∃ as, resolveTag c (writeStart e) = openTag e.name as ∧
      ("src", attributeText (c.base ++ file).toList) ∈ as := by
  have ha : c.address? (String.ofList name.toList) = some (c.base ++ file) := by
    rw [String.ofList_toList, Catalog.address?, hf]
    rfl
  rw [resolveTag_placed h c hp, ha]
  refine ⟨_, rfl, ?_⟩
  obtain ⟨a, hm, hn⟩ := List.mem_map.1 (mem_of_placeholder? hp)
  refine List.mem_map.2 ⟨(a.name, escape true a.value.toList), List.mem_map.2 ⟨a, hm, rfl⟩, ?_⟩
  rw [if_pos hn, hn]

end Asset

namespace Markup

/-- The elements of two assets are of one name if both assets are videos, or none. -/
theorem mediaName_eq_iff (config : RenderConfig) (name file : String) :
    mediaName config name = mediaName config file ↔
      config.isVideo name.toList = config.isVideo file.toList := by
  rw [mediaName, mediaName]
  cases config.isVideo name.toList <;> cases config.isVideo file.toList <;> decide

end Markup

namespace Page

variable {p : Page} {config : RenderConfig} {vars : Variables} {c : Catalog} {name file : String}
  {before tag rest : Text}

/-- A media tag of a page whose placeholder finds a file gets the address of the file for its source, and it
is a video if the name of the placeholder is that of one; so it fits the file if both are videos, or none.
Other media tags are the page's own, and such a tag is there only if the prose that is shown writes one. -/
theorem mediaName_or_ownTag_of_find? (hw : (p.render config .story vars).html = before ++ (tag ++ rest))
    (hm : mediaTag? (tag ++ rest) = some (tag, rest)) (hp : placeholderIn? tag = some name)
    (hf : c.find? name = some file) :
    (name ∈ p.shownAssets config vars ∧
      (∃ as, ("src", attributeText (c.base ++ file).toList) ∈ as ∧
        resolveSources c (p.render config .story vars).html =
          resolveSources c before ++ (openTag (mediaName config name) as ++ resolveSources c rest)) ∧
      (mediaName config name = mediaName config file ↔
        config.isVideo name.toList = config.isVideo file.toList)) ∨
    OwnTag (PlaceFor config (p.shownAssets config vars)) (p.markup config vars) name ∧
      ¬ NoMedia (p.shownProse config vars) := by
  have hn : AssetNames (PlaceFor config (p.shownAssets config vars)) :=
    fun _ _ h => isAssetChar_of_mem_assets h.1
  have hi : ∀ n, PlaceFor config (p.shownAssets config vars) "image" n →
      PlaceFor config (p.shownAssets config vars) "img" n := by
    rintro n ⟨-, h⟩
    have hmem := mediaName_mem config n
    rw [← h] at hmem
    exact absurd hmem (by decide)
  obtain ⟨e, hes, rfl, hplace, ⟨hshown, hname⟩ | ho⟩ := exists_element_of_placeholderIn? hn hi hw hm hp
  · left
    obtain ⟨as, he, hsrc⟩ := resolveTag_of_find? hes hplace hf
    refine ⟨hshown, ⟨as, hsrc, ?_⟩, mediaName_eq_iff config name file⟩
    rw [hw, resolveSources_mediaTag c hm, he, hname]
  · exact .inr ⟨ho, fun hno => not_ownTag hn (mediaHas_markup hno) name ho⟩

/-- A video that is named with its extension is shown by a video, and its address stands in the tag. -/
theorem mediaName_intro :
    let p := Page.ofSource "\x7bcave\x7d and \x7bintro.MP4:small\x7d"
    let c : Catalog := .ofFiles {} ["cave.png", "intro.MP4"]
    ∃ as, ("src", "assets/intro.MP4".toList) ∈ as ∧
      resolveSources c (p.render {} .story .empty).html =
        "<p><img src=\"assets/cave.png\" alt=\"cave\" class=\"story-asset\"> and ".toList ++
          (openTag "video" as ++ "</video></p>".toList) := by
  intro p c
  have hw : (p.render {} .story .empty).html =
      "<p><img src=\"asset:cave\" alt=\"cave\" class=\"story-asset\"> and ".toList ++
        (("<video src=\"asset:intro.MP4\" class=\"story-asset asset-small\" controls=\"\"".toList ++
          " preload=\"metadata\">".toList) ++ "</video></p>".toList) := by decide +kernel
  have hno : NoMedia (p.shownProse {} .empty) := by decide +kernel
  have hf : c.find? "intro.MP4" = some "intro.MP4" := by decide +kernel
  have h := mediaName_or_ownTag_of_find? hw (by decide +kernel) (by decide +kernel) hf
  obtain ⟨-, ⟨as, hsrc, he⟩, -⟩ := h.resolve_right fun ho => ho.2 hno
  have ha : attributeText (c.base ++ "intro.MP4").toList = "assets/intro.MP4".toList := by
    decide +kernel
  have hbefore : resolveSources c
      "<p><img src=\"asset:cave\" alt=\"cave\" class=\"story-asset\"> and ".toList =
      "<p><img src=\"assets/cave.png\" alt=\"cave\" class=\"story-asset\"> and ".toList := by
    decide +kernel
  have hrest : resolveSources c "</video></p>".toList = "</video></p>".toList := by decide +kernel
  have hname : mediaName {} "intro.MP4" = "video" := by decide +kernel
  rw [hbefore, hrest, hname] at he
  exact ⟨as, ha ▸ hsrc, he⟩

/-- A video that is named without its extension is shown by an image. -/
theorem not_mediaName_intro :
    let p := Page.ofSource "\x7bintro\x7d"
    let c : Catalog := .ofFiles {} ["intro.mp4"]
    "intro" ∈ p.shownAssets {} .empty ∧ c.find? "intro" = some "intro.mp4" ∧
      RenderConfig.isVideo {} "intro.mp4".toList = true ∧
      resolveSources c (p.render {} .story .empty).html =
        "<p><img src=\"assets/intro.mp4\" alt=\"intro\" class=\"story-asset\"></p>".toList := by
  refine ⟨by decide +kernel, by decide +kernel, by decide +kernel, by decide +kernel⟩

end Page
end Gamebook
