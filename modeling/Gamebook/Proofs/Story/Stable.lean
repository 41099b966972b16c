import Gamebook.Proofs.Story.Export

/-!
# Exporting twice

What an export changes of a story it changes at once: the text of a page offers the choices that are
read from it, and the manifest lists the pages that are read as endings. So the story that is read
from exported files has these files.
-/

namespace Gamebook.Story

variable {s : Story}

/-- A page that is read from its exported text has that text. -/
theorem sourceOf_back (p : Page) : sourceOf p.back = sourceOf p := by
  have hc : p.back.content.toList = sourceOf p := String.toList_ofList
  have ho : (Choice.split p.back.content.toList).1 = p.back.choices := rfl
  rw [Page.sourceOf_eq_content (.inr ho), hc]

/-! ## The manifest -/

theorem endings_reloaded (s : Story) : s.reloaded.endings = s.endings := by
  refine SortedMap.ext ?_
  simp only [endings, reloaded, SortedMap.mapValues, SortedMap.filter, List.filter_map,
    List.map_map, Function.comp_def]

/-- The manifest that is exported is exported again. -/
theorem exportedManifest_reloaded (s : Story) :
    s.reloaded.exportedManifest = s.exportedManifest := by
  rw [exportedManifest_eq s.reloaded, endings_reloaded]
  have hm : s.reloaded.manifest = s.exportedManifest := rfl
  rw [hm, exportedManifest_eq]
  by_cases h : s.manifest.isSome ∨ s.endings.isEmpty = false
  -- Now the story has a manifest, whether or not it had one before.
  · rw [if_pos h, if_pos (.inl rfl)]
    rfl
  · rw [if_neg h, if_neg]
    simp_all

/-- What is said of a story besides its endings is said of it again. -/
theorem bind_exportedManifest {α : Type} {said : Manifest → Option α} (hd : said default = none)
    (he : ∀ m endings, said { m with endings } = said m) (s : Story) :
    s.exportedManifest.bind said = s.manifest.bind said := by
  rw [exportedManifest_eq]
  cases hm : s.manifest with
  | some m => exact he m s.endings
  | none =>
      split
      · exact (he default s.endings).trans hd
      · rfl

/-! ## The files -/

theorem exports_reloaded (s : Story) : s.reloaded.exports = s.exports := by
  have he (t : Story) : t.exports =
      (t.pages.entries.map fun e => (sourceName e.1, String.ofList (sourceOf e.2))) ++
        t.exportedManifest.toList.map fun m => (FileRole.manifestName, m.toJson.pretty) := rfl
  have hb : s.reloaded.pages.entries = s.pages.entries.map fun e => (e.1, e.2.back) := rfl
  rw [he, he, hb, List.map_map, exportedManifest_reloaded]
  simp only [Function.comp_def, sourceOf_back]

theorem toFiles_reloaded (s : Story) : s.reloaded.toFiles = s.toFiles :=
  congrArg SortedMap.ofList s.exports_reloaded

theorem contains_manifestName_iff :
    s.toFiles.contains FileRole.manifestName = true ↔ s.exportedManifest.isSome = true := by
  simp only [SortedMap.contains_iff, SortedMap.get?_eq_some_iff, mem_toFiles, mem_exports_manifest,
    Option.isSome_iff_exists]
  constructor
  · rintro ⟨content, m, hm, -⟩
    exact ⟨m, hm⟩
  · rintro ⟨m, hm⟩
    exact ⟨_, m, hm, rfl⟩

theorem isSome_exportedManifest_iff :
    s.exportedManifest.isSome = true ↔
      s.manifest.isSome = true ∨
        ∃ id page, s.pages.get? id = some page ∧ page.isEnding = true := by
  simp only [← contains_endings_iff, ← SortedMap.isEmpty_eq_false_iff]
  rw [exportedManifest_eq]
  split
  · next h => exact iff_of_true rfl h
  · next h => exact iff_of_false nofun h

/-- Export is stable. The exported files of a story are always read again, as pages of the same ids
and with all that is said of the story besides its endings; the story that is read is exported to
exactly the same files. There is a manifest among them exactly if the story has one or an ending. -/
theorem toFiles_stable (h : s.Storable) :
    ∃ t, ofFiles s.toFiles s.assets.keys = .ok t ∧ t.toFiles = s.toFiles ∧
      t.pages.keys = s.pages.keys ∧ t.assets = s.assets ∧
      t.title? = s.title? ∧ t.manifest.bind (·.author) = s.manifest.bind (·.author) ∧
      t.manifest.bind (·.description) = s.manifest.bind (·.description) ∧ t.config = s.config ∧
      (s.toFiles.contains FileRole.manifestName = true ↔
        s.manifest.isSome = true ∨
          ∃ id page, s.pages.get? id = some page ∧ page.isEnding = true) :=
  ⟨s.reloaded, ofFiles_toFiles h, s.toFiles_reloaded, SortedMap.keys_mapValues .., rfl,
    s.bind_exportedManifest rfl fun _ _ => rfl, s.bind_exportedManifest rfl fun _ _ => rfl,
    s.bind_exportedManifest rfl fun _ _ => rfl, s.reloaded_config,
    contains_manifestName_iff.trans isSome_exportedManifest_iff⟩

/-- A story with a title and a page that is an ending, whose text offers a choice that it no longer
has: the old line is replaced once, and then the files stay as they are. -/
theorem toFiles_stable_stale_line :
    let page : Page := ⟨"Hall\na) Old door\nb) Old stairs\n", true, true,
      [⟨'a', "New door", some { number := 4, path := [] }⟩]⟩
    let s : Story := ⟨.ofList [(.root, page)], .empty, some { title := some "The hall" }⟩
    s.Storable ∧ s.toFiles.get? "1.txt" = some "Hall\na) [4] New door" ∧
      ∃ t, ofFiles s.toFiles [] = .ok t ∧ t.toFiles = s.toFiles ∧ t.title? = some "The hall" ∧
        t.toFiles.contains FileRole.manifestName = true := by
  intro page s
  have hs : s.Storable := fun m hm => by
    cases hm
    exact RenderConfig.storable_default
  obtain ⟨t, ht, hf, -, -, htitle, -, -, -, hm⟩ := toFiles_stable hs
  exact ⟨hs, by decide +kernel, t, ht, hf, htitle, hf ▸ hm.2 (.inl rfl)⟩

end Gamebook.Story
