import Gamebook.Proofs.Asset.LeftOut
import Gamebook.Proofs.Asset.Placed
import Gamebook.Proofs.Graph.Blocks
import Gamebook.Proofs.Markup.Typography
import Gamebook.Proofs.Play.Sanitized
import Gamebook.Proofs.Play.Shown

/-!
# Assets that are missing in play

A check looks for the assets of a page's text as it is written; what goes missing in play is a placeholder
in the html of the page. Where that was put there for a token of the text, the author was told of it; where
the author wrote an image or a video as a tag, nothing looked for its file.
-/

namespace Gamebook

open Text Html Piece Asset

/-! ## Warnings -/

theorem Finding.eq_missingAsset {f : Finding} {id : PageId} {name : String}
    (h : f.diagnostic id = (missingAsset name).diagnostic id) : f = missingAsset name := by
  have hs : f.severity = .warning := congrArg Diagnostic.severity h
  have hm : f.message = (missingAsset name).message := congrArg Diagnostic.message h
  have hi := initial_eq hm
  cases f with
  | missingAsset n =>
      have hm : "Missing asset \"" ++ n ++ "\"." = "Missing asset \"" ++ name ++ "\"." := hm
      rw [String.append_left_inj, String.append_right_inj] at hm
      rw [hm]
  | missingTarget letter target => cases hs
  | _ => simp [initial] at hi

namespace Story

variable {s : Story} {id : PageId} {page : Page} {name : String} {vars : Variables}

/-- The author is told of the assets of a page's text, as it is written, that are no files. -/
theorem missingAsset_mem_diagnostics_iff (hp : s.pages.get? id = some page) :
    (Finding.missingAsset name).diagnostic id ∈ s.diagnostics ↔
      name ∈ Pages.missingAssets s.catalog page := by
  have hf : Finding.missingAsset name ∈ s.findingsAt id page ↔
      name ∈ Pages.missingAssets s.catalog page := by
    rw [findingsAt, Pages.findingsAt]
    simp
  rw [mem_diagnostics_iff, ← hf]
  constructor
  · rintro ⟨page', g, hp', hg, he⟩
    cases hp.symm.trans hp'
    exact Finding.eq_missingAsset he ▸ hg
  · exact fun h => ⟨page, _, hp, h, rfl⟩

end Story

/-! ## Assets that a page shows -/

namespace Page

variable {p : Page} {name : String} {config : RenderConfig} {vars : Variables}

/-- The names of the assets of the prose that a page shows. -/
def shownAssets (p : Page) (config : RenderConfig) (vars : Variables) : List String :=
  (Directive.assets (p.shownProse config vars)).map (·.name)

theorem mem_assets_of_mem_shownAssets (h : p.prose.Apart) (hn : name ∈ p.shownAssets config vars) :
    name ∈ (Directive.assets p.content.toList).map (·.name) := by
  obtain ⟨ref, hr, rfl⟩ := List.mem_map.1 hn
  obtain ⟨i, hi, ha⟩ := Directive.mem_assets.1 hr
  have hi := ((Directive.mem_insides_dropInTurn (apart_resolvedProse h config vars)).1 hi).1
  refine List.mem_map_of_mem (Directive.mem_assets.2 ⟨i, ?_, ha⟩)
  exact mem_insides_of_prose (mem_insides_of_resolvedProse h hi).1

/-- Where the prose that is shown writes no media tag, the markup has those of placeholders only. -/
theorem mediaHas_markup (hm : NoMedia (p.shownProse config vars)) :
    MediaHas (Markup.HoldsPlaceOf (Markup.PlaceFor config (p.shownAssets config vars)))
      (p.markup config vars) := by
  have hp := Markup.mediaHas_placeholders config (Markup.noMedia_style hm)
  rw [Markup.assets_style] at hp
  exact Markup.mediaHas_paragraphs (fun _ _ h => Markup.isAssetChar_of_mem_assets h.1) hp

theorem not_ownSource (hm : NoMedia (p.shownProse config vars)) (name : String) :
    ¬ OwnSource (p.shownAssets config vars) (p.markup config vars) name := by
  have h : MediaHas (Markup.HoldsPlaceOf fun _ name => name ∈ p.shownAssets config vars)
      (p.markup config vars) := fun r hr ho => (mediaHas_markup hm r hr ho).mono fun _ _ hq => hq.1
  rw [ownSource_eq]
  exact not_ownTag (fun _ _ hq => Markup.isAssetChar_of_mem_assets hq) h name

section Kinds

variable {Q : String → String → Prop} (hn : Markup.AssetNames Q)
  (hi : ∀ name, Q "image" name → Q "img" name)

include hn hi

/-- The images and videos that are kept of a page have for their sources placeholders of some kind, or
sources of their own. -/
theorem everyOf_kept (p : Page) (config : RenderConfig) (vars : Variables) :
    Node.EveryOf (Builder.Within (SourcesOf fun tag n => Q tag n ∨ OwnTag Q (p.markup config vars) n))
      (p.kept config vars) := by
  delta kept
  generalize p.markup config vars = t
  exact everyOf_keep_sourcesOf hn hi .story t

/-- A media tag of a page is that of an element that is kept, and its placeholder is of some kind or of a tag
of its own. -/
theorem exists_element_of_placeholderIn? {before tag rest : Text}
    (hw : (p.render config .story vars).html = before ++ (tag ++ rest))
    (hm : mediaTag? (tag ++ rest) = some (tag, rest)) (hp : placeholderIn? tag = some name) :
    ∃ e, e.Sanitized storyNames ∧ tag = writeStart e ∧
      placeholder? e.attributes = some name.toList ∧
      (Q e.name name ∨ OwnTag Q (p.markup config vars) name) := by
  have hsan := p.sanitized_kept config vars
  rw [html_render] at hw
  obtain ⟨e, he, hes, hem, rfl⟩ := exists_element_of_mediaTag? hsan hw hm
  have hplace := placeholder?_of_writeStart hes hp
  refine ⟨e, hes, rfl, hplace, ?_⟩
  have hs := forall_startedOf _ (everyOf_kept hn hi p config vars) e he hes.html
  obtain ⟨a, ha, hsrc⟩ := List.exists_of_findSome?_eq_some hplace
  split at hsrc
  · next hname =>
      have hmedia : e.name ∈ mediaNames := by
        have hall : ∀ n ∈ ["img", "video"], n ∈ mediaNames := by decide
        exact hall _ (List.contains_iff_mem.1 hem)
      have hvalue : a.value = "asset:" ++ name := by
        rw [← String.toList_inj, String.toList_append]
        exact after?_eq_some hsrc
      exact hs hmedia a ha hname name hvalue
  · cases hsrc

end Kinds

/-- A placeholder that is left of a page is that of an asset that is shown, or of a tag of its own. -/
theorem asset_or_ownSource_of_leavesOut {c : Catalog}
    (hl : LeavesOut c (p.render config .story vars).html name) :
    name ∈ p.shownAssets config vars ∨
      OwnSource (p.shownAssets config vars) (p.markup config vars) name := by
  obtain ⟨before, tag, rest, hw, hm, hp, -⟩ := hl
  have hn : Markup.AssetNames fun _ n => n ∈ p.shownAssets config vars :=
    fun _ _ h => Markup.isAssetChar_of_mem_assets h
  obtain ⟨e, -, -, -, h⟩ := exists_element_of_placeholderIn? hn (fun _ h => h) hw hm hp
  rwa [ownSource_eq]

end Page

namespace Story

variable {s : Story} {id : PageId} {page : Page} {name : String} {vars : Variables}

/-- Where no loose braces meet, the author is told of every asset whose placeholder is left when the page
is rendered, unless the placeholder is the source of a tag of its own; and such a tag is there only if the
prose that is shown writes a media tag itself. -/
theorem missingAsset_or_ownSource_of_leavesOut (hp : s.pages.get? id = some page)
    (ha : page.prose.Apart) (hl : LeavesOut s.catalog (page.render s.config .story vars).html name) :
    (Finding.missingAsset name).diagnostic id ∈ s.diagnostics ∨
      OwnSource (page.shownAssets s.config vars) (page.markup s.config vars) name ∧
        ¬ NoMedia (page.shownProse s.config vars) := by
  rcases Page.asset_or_ownSource_of_leavesOut hl with hn | ho
  · left
    obtain ⟨before, tag, rest, -, -, -, hc⟩ := hl
    rw [missingAsset_mem_diagnostics_iff hp, Pages.missingAssets, List.mem_filter]
    refine ⟨Page.mem_assets_of_mem_shownAssets ha hn, ?_⟩
    rw [Catalog.contains, Option.map_eq_none_iff.1 hc]
    rfl
  · exact .inr ⟨ho, fun hm =>
      Page.not_ownSource hm name ho⟩

/-- Of a map that is no file the author is told. -/
theorem missingAsset_map :
    let content := "\x7bset:lamp=true\x7d*The \x7bmap:small\x7d* of \x7bif:lamp\x7dthe \x7bcave\x7d\x7b/if\x7d"
    let s : Story := ⟨.ofList [(.root, .ofSource content)], .ofList [("cave.png", ())], none⟩
    LeavesOut s.catalog ((Page.ofSource content).render s.config .story .empty).html "map" ∧
      (Finding.missingAsset "map").diagnostic .root ∈ s.diagnostics := by
  intro content s
  have hp : s.pages.get? .root = some (.ofSource content) := by decide +kernel
  have ha : (Page.ofSource content).prose.Apart := by decide +kernel
  have hl : LeavesOut s.catalog ((Page.ofSource content).render s.config .story .empty).html "map" :=
    ⟨"<p>*The ".toList, "<img src=\"asset:map\" alt=\"map\" class=\"story-asset asset-small\">".toList,
      "* of the <img src=\"asset:cave\" alt=\"cave\" class=\"story-asset\"></p>".toList,
      by decide +kernel, by decide +kernel, by decide +kernel, by decide +kernel⟩
  have hm : NoMedia ((Page.ofSource content).shownProse s.config .empty) := by decide +kernel
  exact ⟨hl, (missingAsset_or_ownSource_of_leavesOut hp ha hl).resolve_right fun ho => ho.2 hm⟩

/-- Of the missing file of an image that is written as a tag the author is not told. -/
theorem not_missingAsset_img :
    let content := "<img src=\"asset:map\">"
    let s := single content
    s.pages.get? .root = some (.ofSource content) ∧
      LeavesOut s.catalog ((Page.ofSource content).render s.config .story .empty).html "map" ∧
      (Finding.missingAsset "map").diagnostic .root ∉ s.diagnostics := by
  intro content s
  have hp : s.pages.get? .root = some (.ofSource content) := by decide +kernel
  refine ⟨hp, ⟨"<p>".toList, content.toList, "</p>".toList, by decide +kernel, by decide +kernel,
    by decide +kernel, by decide +kernel⟩, ?_⟩
  rw [missingAsset_mem_diagnostics_iff hp]
  decide +kernel

end Story
end Gamebook
