import Gamebook.Proofs.Play.Restore
import Gamebook.Proofs.Story.Loading

/-!
# Exporting a story

The exported files of a story are always read again. What is read is the story exactly if its
choices can be said: each page's text offers its choices already, or lines can say them all.
-/

namespace Gamebook

namespace Page

/-- A page as it is read from its exported text, an ending if it was one. -/
def back (p : Page) : Page := { p.exported with isEnding := p.isEnding }

variable {p : Page}

theorem back_hasChoices (h : p.Loaded) (he : p.Exportable) : p.back.hasChoices = p.hasChoices := by
  have hm : p.back.hasChoices = !p.exported.choices.isEmpty := (loaded_ofSource _).marked
  rw [hm, h.choices_exported_iff.2 he, h.marked]

theorem back_render (h : p.Loaded) (he : p.Exportable) (config : RenderConfig)
    (allowed : Html.AllowList) (vars : Variables) :
    p.back.render config allowed vars = p.render config allowed vars := by
  obtain ⟨body, n, m, hp, hb⟩ := h.prose_exported he
  exact (render_congr (q := p.back) hp hb (h.choices_exported_iff.2 he).symm rfl config allowed
    vars).symm

end Page

namespace Story

variable {s t : Story}

/-- Whether a story is kept by another: the same pages with the same choices, rendered and played
alike for every reader. -/
structure KeptBy (s t : Story) : Prop where
  ids : t.pages.keys = s.pages.keys
  choices : ∀ id page back, s.pages.get? id = some page → t.pages.get? id = some back →
    back.choices = page.choices ∧ back.hasChoices = page.hasChoices ∧
      back.isEnding = page.isEnding
  rendered : ∀ id vars, t.renderPage? id vars = s.renderPage? id vars
  played : ∀ allowed initial p moves,
    (t.stage allowed initial).outcomes p moves = (s.stage allowed initial).outcomes p moves

/-! ## What is read of the exported files -/

theorem reloaded_get? (s : Story) (id : PageId) :
    s.reloaded.pages.get? id = (s.pages.get? id).map Page.back :=
  SortedMap.get?_mapValues ..

theorem reloaded_config (s : Story) : s.reloaded.config = s.config := by
  rw [config, config, reloaded, exportedManifest]
  cases hm : s.manifest with
  | some m => rfl
  | none => split <;> rfl

theorem reloaded_catalog (s : Story) : s.reloaded.catalog = s.catalog := by
  rw [catalog, catalog, reloaded_config]
  rfl

variable (h : s.Loaded) (he : ∀ id page, s.pages.get? id = some page → page.Exportable)

include h he

theorem Loaded.render_reloaded (id : PageId) (config : RenderConfig) (allowed : Html.AllowList)
    (vars : Variables) :
    ((s.reloaded.pages.get? id).map fun page => page.render config allowed vars) =
      (s.pages.get? id).map fun page => page.render config allowed vars := by
  rw [reloaded_get?]
  cases hp : s.pages.get? id with
  | none => rfl
  | some page =>
      simp only [Option.map_some, Page.back_render (h.pages id page hp) (he id page hp)]

theorem Loaded.alike_reloaded (allowed : Html.AllowList) (initial : Variables) :
    (s.reloaded.stage allowed initial).Alike (s.stage allowed initial) where
  renderings id vars := by
    have hr := h.render_reloaded he id s.config allowed vars
    rw [← s.reloaded_config] at hr
    exact hr.trans (by rw [s.reloaded_config]; rfl)
  catalog := congrArg some s.reloaded_catalog
  initial := rfl

theorem Loaded.keptBy_reloaded : s.KeptBy s.reloaded where
  ids := SortedMap.keys_mapValues ..
  choices id page back hp hb := by
    rw [reloaded_get?, hp, Option.map_some] at hb
    cases hb
    have hl := h.pages id page hp
    have hx := he id page hp
    exact ⟨hl.choices_exported_iff.2 hx, Page.back_hasChoices hl hx, rfl⟩
  rendered id vars := by
    have hr := congrArg
      (Option.map fun r => { r with html := Asset.resolveSources s.catalog r.html })
      (h.render_reloaded he id s.config .story vars)
    rw [Option.map_map, Option.map_map] at hr
    rw [renderPage?, renderPage?, reloaded_config, reloaded_catalog]
    exact hr
  played allowed initial p moves := (h.alike_reloaded he allowed initial).outcomes p moves

omit he

/-- Only what can be said is kept. -/
theorem Loaded.exportable_of_keptBy (hk : s.KeptBy s.reloaded) {id : PageId} {page : Page}
    (hp : s.pages.get? id = some page) : page.Exportable := by
  have hb : s.reloaded.pages.get? id = some page.back := by rw [reloaded_get?, hp, Option.map_some]
  exact (h.pages id page hp).choices_exported_iff.1 (hk.choices id page _ hp hb).1

omit h

/-- The exported files of a story that was loaded are a story again, and they keep it exactly if its
choices can be said. -/
theorem ofFiles_toFiles_keeps_iff {files : SortedMap String String} {assets : List String}
    (h : ofFiles files assets = .ok s) :
    ∃ t, ofFiles s.toFiles s.assets.keys = .ok t ∧
      (s.KeptBy t ↔ ∀ id page, s.pages.get? id = some page → page.Exportable) := by
  have hl := loaded_of_ofFiles h
  exact ⟨s.reloaded, ofFiles_toFiles hl.storable,
    fun hk _ _ hp => hl.exportable_of_keptBy hk hp, hl.keptBy_reloaded⟩

/-! ## A story of one stored choice -/

/-- The file of a page that stores a choice. -/
def storing (c : ChoiceRecord) : SortedMap String String :=
  .ofList [("1.json",
    (PageRecord.structured PageRecord.currentVersion "The cave." true false [c]).toJson.pretty)]

/-- The story of a page with a choice. -/
def offering (c : Choice) : Story := ⟨.ofList [(.root, ⟨"The cave.", true, false, [c]⟩)], .empty, none⟩

theorem get?_offering {c : Choice} {id : PageId} {page : Page}
    (h : (offering c).pages.get? id = some page) : page = ⟨"The cave.", true, false, [c]⟩ :=
  (Prod.mk.inj (List.mem_singleton.1 (SortedMap.get?_eq_some_iff.1 h))).2

/-- A choice that is stored with its target is kept. -/
theorem keeps_stored_target :
    ∃ s t, ofFiles (storing ⟨"a", "Go on", some "4"⟩) [] = .ok s ∧
      ofFiles s.toFiles s.assets.keys = .ok t ∧ s.KeptBy t := by
  have hs : ofFiles (storing ⟨"a", "Go on", some "4"⟩) [] =
      .ok (offering ⟨'a', "Go on", some { number := 4, path := [] }⟩) :=
    ok_of_toOption (by decide +kernel)
  obtain ⟨t, ht, hk⟩ := ofFiles_toFiles_keeps_iff hs
  refine ⟨_, t, hs, ht, hk.2 fun id page hp => .inr ?_⟩
  rw [get?_offering hp]
  exact List.forall_mem_singleton.2
    ⟨⟨.a, rfl⟩, by decide +kernel, by decide +kernel, nofun⟩

/-- A choice whose words begin with a page id in brackets is not kept: they come back without it,
and the choice leads to that page. -/
theorem not_keeps_bracketed_words :
    ∃ s t, ofFiles (storing ⟨"a", "[4] Go on", none⟩) [] = .ok s ∧
      ofFiles s.toFiles s.assets.keys = .ok t ∧
      t.pages.get? .root = some ⟨"The cave.\na) [4] Go on", true, false,
        [⟨'a', "Go on", some { number := 4, path := [] }⟩]⟩ ∧ ¬ s.KeptBy t := by
  have hs : ofFiles (storing ⟨"a", "[4] Go on", none⟩) [] =
      .ok (offering ⟨'a', "[4] Go on", none⟩) :=
    ok_of_toOption (by decide +kernel)
  have hl := loaded_of_ofFiles hs
  have hr : (offering ⟨'a', "[4] Go on", none⟩).reloaded.pages.get? .root =
      some ⟨"The cave.\na) [4] Go on", true, false,
        [⟨'a', "Go on", some { number := 4, path := [] }⟩]⟩ := by
    decide +kernel
  refine ⟨_, _, hs, ofFiles_toFiles hl.storable, hr, fun hk => ?_⟩
  have hc := (hk.choices .root _ _ rfl hr).1
  exact absurd hc (by decide)

end Story
end Gamebook
