import Gamebook.Proofs.Asset.Reread
import Gamebook.Story.Basic

/-!
# Pages stay within the list

What a reader sees of a page has the elements and attributes that the list for stories leaves, though
the placeholders are resolved after the page was sanitized; except where a tag is misread, which can
bring any attribute about.
-/

namespace Gamebook

open Html

/-- The fragment that the list for stories leaves of a page. -/
@[irreducible] def Page.kept (p : Page) (config : RenderConfig) (vars : Variables) : List Node :=
  AllowList.story.keep (parse (p.markup config vars))

theorem Page.html_render (p : Page) (config : RenderConfig) (vars : Variables) :
    (p.render config .story vars).html = write (p.kept config vars) := by
  delta kept
  rw [render, AllowList.sanitize]

theorem Page.sanitized_kept (p : Page) (config : RenderConfig) (vars : Variables) :
    Sanitized storyNames (p.kept config vars) := by
  delta kept
  generalize p.markup config vars = t
  exact AllowList.sanitized_keep t

theorem Story.renderPage?_eq {s : Story} {id : PageId} {page : Page}
    (hp : s.pages.get? id = some page) (vars : Variables) :
    s.renderPage? id vars = some { page.render s.config .story vars with
      html := Asset.resolveSources s.catalog (page.render s.config .story vars).html } := by
  simp only [renderPage?, hp, Option.map_some]

namespace Asset

/-- The html of a page with its placeholders resolved reads back as what is kept of the page, with
resolved elements. -/
theorem readsResolved_page {c : Catalog} {page : Page} {config : RenderConfig} {vars : Variables}
    (hr : Readable c (page.kept config vars)) :
    ReadsResolved storyNames c (page.kept config vars)
      (resolveSources c (page.render config .story vars).html) := by
  have hs := page.sanitized_kept config vars
  rw [Page.html_render]
  generalize page.kept config vars = ns at hs hr
  exact readsResolved_resolveSources (List.Subset.refl _) (by decide) hs hr

/-- Resolving the placeholders of a sanitized fragment does what it should exactly if no tag is
misread, and so the html of a view and of a rendered page stays sanitized. -/
theorem resolved_stays_sanitized (c : Catalog) :
    (∀ names ns, names ⊆ storyNames → "class" ∈ names → Sanitized names ns →
      (tokens (resolveSources c (write ns)) =
          tokens (write (Node.changeAll (resolveElement c) ns)) ↔ Readable c ns) ∧
      (Readable c ns → ReadsResolved names c ns (resolveSources c (write ns)))) ∧
    (∀ (s : Stage) (page : Page) (id : PageId) (vars : Variables), s.allowed = .story →
      s.catalog = some c → Readable c (page.kept s.config vars) →
      ReadsResolved storyNames c (page.kept s.config vars)
        (s.view id (page.render s.config s.allowed vars)).html) ∧
    ∀ (s : Story) (id : PageId) (page : Page) (vars : Variables), s.catalog = c →
      s.pages.get? id = some page → Readable c (page.kept s.config vars) →
      ∃ r, s.renderPage? id vars = some r ∧
        ReadsResolved storyNames c (page.kept s.config vars) r.html := by
  refine ⟨fun names ns hn hc h => ⟨tokens_resolveSources (h.mono hn) c,
    readsResolved_resolveSources hn hc h⟩, fun s page id vars ha hc hr => ?_,
    fun s id page vars hc hp hr => ?_⟩
  · simp only [Stage.view, hc, ha]
    exact readsResolved_page hr
  · subst hc
    refine ⟨_, Story.renderPage?_eq hp vars, ?_⟩
    dsimp only
    exact readsResolved_page hr

/-- An image without a file and with a text that ends as a class begins. -/
def lastClass : Node :=
  .element { name := "img", attributes := [⟨"src", "asset:map", ""⟩, ⟨"alt", "class=", ""⟩] } []

theorem resolved_stays_sanitized_last :
    let page := Page.ofSource "<img src=\"asset:map\" alt=\"class=\">"
    let s : Story := ⟨.ofList [(.root, page)], .empty, none⟩
    ReadsResolved AllowList.story.attributes s.catalog [lastClass]
        (resolveSources s.catalog (write [lastClass])) ∧
      ReadsResolved storyNames s.catalog (page.kept s.config .empty)
        ((s.stage .story .empty).view .root (page.render s.config .story .empty)).html ∧
      ∃ r, s.renderPage? .root .empty = some r ∧
        ReadsResolved storyNames s.catalog (page.kept s.config .empty) r.html := by
  intro page s
  have h : Sanitized AllowList.story.attributes [lastClass] :=
    ⟨⟨⟨rfl, by decide, by decide, by decide⟩, trivial⟩, trivial⟩
  have hr : Readable s.catalog [lastClass] := by
    intro e he
    rw [List.mem_singleton.1 he]
    decide +kernel
  have hp : Readable s.catalog (page.kept s.config .empty) := by
    decide +kernel
  have main := resolved_stays_sanitized s.catalog
  exact ⟨(main.1 _ _ (by decide) (by decide) h).2 hr,
    main.2.1 (s.stage .story .empty) page .root .empty rfl rfl hp,
    main.2.2 s .root page .empty rfl rfl hp⟩

/-- The image of a page has no file, a text that ends as a class begins, and a value behind it: the
value is read as more attributes, the last of which no list allows. -/
theorem not_sanitized_hidden :
    let page := Page.ofSource
      "<img src=\"asset:map\" alt=\"class=\" preload=\"none onerror=alert(1)\">"
    let s : Story := ⟨.ofList [(.root, page)], .empty, none⟩
    ∃ r, s.renderPage? .root .empty = some r ∧
      r.html = ("<p><img src=\"asset:map\" alt=\"class=\" preload= " ++
        "asset-missing\"none onerror=alert(1)\"></p>").toList ∧
      ∃ e ∈ Node.startedOf (parse r.html), ∃ a ∈ e.attributes, a.name ∉ storyNames := by
  intro page s
  have hp : s.pages.get? .root = some page := rfl
  have hs : (page.render s.config .story .empty).html =
      "<p><img src=\"asset:map\" alt=\"class=\" preload=\"none onerror=alert(1)\"></p>".toList := by
    decide +kernel
  have hr : resolveSources s.catalog (page.render s.config .story .empty).html =
      ("<p><img src=\"asset:map\" alt=\"class=\" preload= " ++
        "asset-missing\"none onerror=alert(1)\"></p>").toList :=
    (congrArg (resolveSources s.catalog) hs).trans (by decide +kernel)
  have ht : Node.startedOf (parse ("<p><img src=\"asset:map\" alt=\"class=\" preload= " ++
      "asset-missing\"none onerror=alert(1)\"></p>").toList) = [{ name := "p" }, { name := "img", attributes :=
      [⟨"src", "asset:map", ""⟩, ⟨"alt", "class=", ""⟩, ⟨"preload", "asset-missing\"none", ""⟩,
        ⟨"onerror", "alert(1)\"", ""⟩] }] := by
    decide +kernel
  refine ⟨_, Story.renderPage?_eq hp .empty, ?_⟩
  dsimp only
  rw [hr, ht]
  refine ⟨rfl, _, List.mem_cons_of_mem _ (List.mem_singleton_self _),
    ⟨"onerror", "alert(1)\"", ""⟩, ?_, ?_⟩
  · decide +kernel
  · decide +kernel

end Asset
end Gamebook
