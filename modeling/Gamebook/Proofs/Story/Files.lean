import Gamebook.Proofs.Json.RoundTrip
import Gamebook.Proofs.SortedMap
import Gamebook.Proofs.Story.FileName
import Gamebook.Proofs.Story.Manifest
import Gamebook.Proofs.Story.Source

/-!
# Reading exported files

The exported files of a story are read page by page: each page is what its text is read as, endings
are endings again, and the manifest and the assets are as they were.
-/

namespace Gamebook

/-! ## Entries by their names -/

theorem lookup_eq_none {entries : List (String × String)} {name : String}
    (h : name ∉ entries.map (·.1)) : entries.lookup name = none := by
  refine List.lookup_eq_none_iff.2 fun e he => ?_
  rw [bne_iff_ne]
  rintro rfl
  exact h (List.mem_map_of_mem he)

theorem lookup_eq_some_iff {entries : List (String × String)} (h : (entries.map (·.1)).Nodup)
    {name content : String} :
    entries.lookup name = some content ↔ (name, content) ∈ entries := by
  induction entries with
  | nil => simp
  | cons e entries ih =>
      obtain ⟨he, hn⟩ := List.nodup_cons.1 h
      rw [List.lookup_cons, List.mem_cons]
      by_cases hne : name = e.1
      · subst hne
        have hm : (e.1, content) ∉ entries := fun hm => he (List.mem_map.2 ⟨_, hm, rfl⟩)
        rw [beq_self_eq_true, or_iff_left hm]
        constructor
        · intro h
          rw [← Option.some.inj h]
        · intro h
          rw [← h]
      · have hpe : (name, content) ≠ e := fun h => hne (congrArg Prod.fst h)
        rw [beq_false_of_ne hne, or_iff_right hpe]
        exact ih hn

namespace Story

/-! ## The exported files -/

variable {s : Story}

/-- The entries of the exported files. -/
def exports (s : Story) : List (String × String) :=
  (s.pages.entries.map fun (id, page) => (sourceName id, String.ofList (sourceOf page))) ++
    s.exportedManifest.toList.map fun m => (FileRole.manifestName, m.toJson.pretty)

theorem mem_exports_page {id : PageId} {content : String} :
    (sourceName id, content) ∈ s.exports ↔
      ∃ page, s.pages.get? id = some page ∧ content = String.ofList (sourceOf page) := by
  constructor
  · intro h
    rcases List.mem_append.1 h with h | h
    · obtain ⟨⟨id', page⟩, hm, he⟩ := List.mem_map.1 h
      obtain ⟨hn, rfl⟩ := Prod.mk.inj he
      rw [sourceName_injective hn] at hm
      exact ⟨page, SortedMap.get?_eq_some_iff.2 hm, rfl⟩
    · obtain ⟨m, -, he⟩ := List.mem_map.1 h
      exact absurd (Prod.mk.inj he).1.symm (sourceName_ne_manifestName id)
  · rintro ⟨page, hp, rfl⟩
    exact List.mem_append_left _ (List.mem_map.2 ⟨_, SortedMap.get?_eq_some_iff.1 hp, rfl⟩)

theorem mem_exports_manifest {content : String} :
    (FileRole.manifestName, content) ∈ s.exports ↔
      ∃ m, s.exportedManifest = some m ∧ content = m.toJson.pretty := by
  constructor
  · intro h
    rcases List.mem_append.1 h with h | h
    · obtain ⟨⟨id, page⟩, -, he⟩ := List.mem_map.1 h
      exact absurd (Prod.mk.inj he).1 (sourceName_ne_manifestName id)
    · obtain ⟨m, hm, he⟩ := List.mem_map.1 h
      exact ⟨m, Option.mem_toList.1 hm, (Prod.mk.inj he).2.symm⟩
  · rintro ⟨m, hm, rfl⟩
    exact List.mem_append_right _ (List.mem_map.2 ⟨m, Option.mem_toList.2 hm, rfl⟩)

theorem exports_nodup (s : Story) : (s.exports.map (·.1)).Nodup := by
  have hp : (s.pages.entries.map fun e => sourceName e.1).Nodup := by
    have := s.pages.keys_nodup
    rw [SortedMap.keys, List.Nodup, List.pairwise_map] at this
    rw [List.Nodup, List.pairwise_map]
    exact this.imp fun hne he => hne (sourceName_injective he)
  rw [exports, List.map_append, List.map_map, List.map_map, List.nodup_append]
  refine ⟨hp, ?_, ?_⟩
  · cases s.exportedManifest with
    | none => exact List.nodup_nil
    | some m => exact List.pairwise_singleton ..
  · intro a ha b hb he
    obtain ⟨e, -, rfl⟩ := List.mem_map.1 ha
    obtain ⟨m, -, rfl⟩ := List.mem_map.1 hb
    exact sourceName_ne_manifestName _ he

theorem mem_toFiles {e : String × String} : e ∈ s.toFiles.entries ↔ e ∈ s.exports := by
  rw [← SortedMap.get?_eq_some_iff]
  exact SortedMap.get?_ofList s.exports_nodup

/-! ## Reading them -/

namespace Draft

/-- The manifest that a text holds. -/
def manifestOf? (content : String) : Option Manifest :=
  (Json.parse? content).bind Manifest.ofJson?

/-- Files that are all read: pages as text, and a manifest. -/
def Readable (file : String × String) : Prop :=
  (∃ id, file.1 = sourceName id) ∨
    file.1 = FileRole.manifestName ∧ (manifestOf? file.2).isSome = true

/-- The page that files hold at an id. -/
def pageIn (files : List (String × String)) (id : PageId) : Option (String × Page) :=
  (files.lookup (sourceName id)).map fun content => (sourceName id, .ofSource content)

/-- The manifest that files hold. -/
def manifestIn (files : List (String × String)) : Option Manifest :=
  (files.lookup FileRole.manifestName).bind manifestOf?

theorem addFile_source {d : Draft} {id : PageId} (h : d.pages.get? id = none) (content : String) :
    d.addFile (sourceName id, content) =
      .ok { d with pages := d.pages.insert id (sourceName id, .ofSource content) } := by
  simp only [addFile, FileRole.ofPath_sourceName, addPage, h]

theorem addFile_manifest {content : String} {m : Manifest} (h : manifestOf? content = some m)
    (d : Draft) :
    d.addFile (FileRole.manifestName, content) = .ok { d with manifest := some m } := by
  rw [manifestOf?] at h
  simp only [addFile, FileRole.ofPath_manifestName, h]

theorem pageIn_cons_self (id : PageId) (content : String) (files : List (String × String)) :
    pageIn ((sourceName id, content) :: files) id = some (sourceName id, .ofSource content) := by
  rw [pageIn, List.lookup_cons, beq_self_eq_true]
  rfl

theorem pageIn_cons_of_ne {name : String} {id : PageId} (h : sourceName id ≠ name)
    (content : String) (files : List (String × String)) :
    pageIn ((name, content) :: files) id = pageIn files id := by
  rw [pageIn, List.lookup_cons, beq_false_of_ne h, pageIn]

theorem manifestIn_cons_self (content : String) (files : List (String × String)) :
    manifestIn ((FileRole.manifestName, content) :: files) = manifestOf? content := by
  rw [manifestIn, List.lookup_cons, beq_self_eq_true]
  rfl

theorem manifestIn_cons_source (id : PageId) (content : String) (files : List (String × String)) :
    manifestIn ((sourceName id, content) :: files) = manifestIn files := by
  rw [manifestIn, List.lookup_cons, beq_false_of_ne (sourceName_ne_manifestName id).symm,
    manifestIn]

/-- Files of different names are all read into a draft that has none of their pages. -/
theorem foldlM_addFile {files : List (String × String)} {d : Draft}
    (hf : ∀ file ∈ files, Readable file) (hn : (files.map (·.1)).Nodup)
    (hd : ∀ id, sourceName id ∈ files.map (·.1) → d.pages.get? id = none) :
    ∃ d', files.foldlM addFile d = .ok d' ∧
      (∀ id, d'.pages.get? id = (pageIn files id).or (d.pages.get? id)) ∧
      d'.manifest = (manifestIn files).or d.manifest := by
  induction files generalizing d with
  | nil => exact ⟨d, rfl, fun _ => rfl, rfl⟩
  | cons file files ih =>
      obtain ⟨name, content⟩ := file
      obtain ⟨hname, hrest⟩ := List.nodup_cons.1 hn
      have hf' : ∀ file ∈ files, Readable file := fun f hm => hf f (List.mem_cons_of_mem _ hm)
      rcases hf _ (List.mem_cons_self ..) with ⟨i, rfl⟩ | ⟨rfl, hm⟩
      · obtain ⟨d', he, hp, hm⟩ := ih (d := { d with
            pages := d.pages.insert i (sourceName i, .ofSource content) }) hf' hrest fun id hid => by
          have hne : id ≠ i := by
            rintro rfl
            exact hname hid
          rw [SortedMap.get?_insert, if_neg fun hc => hne (Std.LawfulEqCmp.eq_of_compare hc)]
          exact hd id (List.mem_cons_of_mem _ hid)
        refine ⟨d', ?_, fun id => ?_, ?_⟩
        · rw [List.foldlM_cons, addFile_source (hd i (List.mem_cons_self ..))]
          exact he
        · rw [hp, SortedMap.get?_insert]
          by_cases hid : id = i
          · subst hid
            have hl : pageIn files id = none := by rw [pageIn, lookup_eq_none hname, Option.map_none]
            rw [if_pos Std.ReflCmp.compare_self, pageIn_cons_self, hl]
            rfl
          · rw [if_neg fun hc => hid (Std.LawfulEqCmp.eq_of_compare hc),
              pageIn_cons_of_ne fun h => hid (sourceName_injective h)]
        · rw [hm, manifestIn_cons_source]
      · obtain ⟨m, hm⟩ := Option.isSome_iff_exists.1 hm
        obtain ⟨d', he, hp, hm'⟩ := ih (d := { d with manifest := some m }) hf' hrest fun id hid =>
          hd id (List.mem_cons_of_mem _ hid)
        refine ⟨d', ?_, fun id => ?_, ?_⟩
        · rw [List.foldlM_cons, addFile_manifest hm]
          exact he
        · rw [hp, pageIn_cons_of_ne (sourceName_ne_manifestName id)]
        · have hl : manifestIn files = none := by
            rw [manifestIn, lookup_eq_none hname, Option.bind_none]
          rw [hm', manifestIn_cons_self, hm, hl]
          rfl

/-- A page that the manifest lists is an ending. -/
theorem get?_finish (d : Draft) (id : PageId) :
    d.finish.get? id = (d.pages.get? id).map fun e =>
      { e.2 with isEnding := e.2.isEnding || d.manifest.any fun m => m.endings.contains id } := by
  rw [finish, SortedMap.get?_mapValues]
  congr 1
  funext e
  simp only
  split
  · next h => rw [h, Bool.or_true]
  · next h => rw [Bool.eq_false_iff.2 h, Bool.or_false]

end Draft

/-! ## The story that is read -/

/-- The story that is read from the exported files. -/
def reloaded (s : Story) : Story where
  pages := s.pages.mapValues fun _ page => { page.exported with isEnding := page.isEnding }
  assets := s.assets
  manifest := s.exportedManifest

/-- Whether the manifest can be written: a depth of 64 bits can. -/
def Storable (s : Story) : Prop := ∀ m, s.manifest = some m → m.config.Storable

theorem Storable.exportedManifest (h : s.Storable) {m : Manifest}
    (hm : s.exportedManifest = some m) : m.config.Storable := by
  simp only [Story.exportedManifest] at hm
  split at hm
  · cases hm
    cases hs : s.manifest with
    | none => exact RenderConfig.storable_default
    | some m => exact h m hs
  · cases hm

theorem Storable.manifestOf? (h : s.Storable) {m : Manifest} (hm : s.exportedManifest = some m) :
    Draft.manifestOf? m.toJson.pretty = some m := by
  have hs := h.exportedManifest hm
  rw [Draft.manifestOf?, Json.parse?_pretty (Manifest.readsBack_toJson hs), Option.bind_some,
    Manifest.ofJson?_toJson hs]

theorem Storable.readable (h : s.Storable) : ∀ file ∈ s.toFiles.entries, Draft.Readable file := by
  intro file hf
  rcases List.mem_append.1 (mem_toFiles.1 hf) with hf | hf
  · obtain ⟨⟨id, page⟩, -, rfl⟩ := List.mem_map.1 hf
    exact .inl ⟨id, rfl⟩
  · obtain ⟨m, hm, rfl⟩ := List.mem_map.1 hf
    exact .inr ⟨rfl, by rw [h.manifestOf? (Option.mem_toList.1 hm), Option.isSome_some]⟩

theorem pageIn_toFiles (s : Story) (id : PageId) :
    Draft.pageIn s.toFiles.entries id =
      (s.pages.get? id).map fun page => (sourceName id, page.exported) := by
  refine Option.ext fun p => ?_
  rw [Draft.pageIn, Option.map_eq_some_iff, Option.map_eq_some_iff]
  constructor
  · rintro ⟨content, hc, rfl⟩
    rw [lookup_eq_some_iff s.toFiles.keys_nodup, mem_toFiles, mem_exports_page] at hc
    obtain ⟨page, hp, rfl⟩ := hc
    exact ⟨page, hp, rfl⟩
  · rintro ⟨page, hp, rfl⟩
    refine ⟨String.ofList (sourceOf page), ?_, rfl⟩
    rw [lookup_eq_some_iff s.toFiles.keys_nodup, mem_toFiles, mem_exports_page]
    exact ⟨page, hp, rfl⟩

theorem Storable.manifestIn_toFiles (h : s.Storable) :
    Draft.manifestIn s.toFiles.entries = s.exportedManifest := by
  refine Option.ext fun m => ?_
  rw [Draft.manifestIn, Option.bind_eq_some_iff]
  constructor
  · rintro ⟨content, hc, hm⟩
    rw [lookup_eq_some_iff s.toFiles.keys_nodup, mem_toFiles, mem_exports_manifest] at hc
    obtain ⟨m', hm', rfl⟩ := hc
    rw [h.manifestOf? hm'] at hm
    rw [hm', hm]
  · intro hm
    refine ⟨m.toJson.pretty, ?_, h.manifestOf? hm⟩
    rw [lookup_eq_some_iff s.toFiles.keys_nodup, mem_toFiles, mem_exports_manifest]
    exact ⟨m, hm, rfl⟩

/-- The pages that are endings. -/
def endings (s : Story) : SortedMap PageId Unit :=
  (s.pages.filter fun _ page => page.isEnding).mapValues fun _ _ => ()

theorem contains_endings_iff {id : PageId} :
    s.endings.contains id = true ↔ ∃ page, s.pages.get? id = some page ∧ page.isEnding = true := by
  refine Iff.trans ?_ (SortedMap.contains_filter_iff (p := fun _ (page : Page) => page.isEnding))
  rw [endings, SortedMap.contains_eq_isSome, SortedMap.contains_eq_isSome,
    SortedMap.get?_mapValues, Option.isSome_map]

/-- A story that has a manifest or an ending is exported with a manifest of its endings. -/
theorem exportedManifest_eq (s : Story) :
    s.exportedManifest =
      if s.manifest.isSome ∨ s.endings.isEmpty = false then
        some { s.manifest.getD default with endings := s.endings }
      else none := by
  have he : s.endings.isEmpty = (s.pages.filter fun _ page => page.isEnding).isEmpty :=
    List.isEmpty_map
  simp only [he, exportedManifest, Bool.not_eq_true']
  rfl

/-- The endings are those that the manifest of the exported files lists. -/
theorem any_exportedManifest {id : PageId} {page : Page} (h : s.pages.get? id = some page) :
    (s.exportedManifest.any fun m => m.endings.contains id) = page.isEnding := by
  have hc : s.endings.contains id = page.isEnding := by
    rw [Bool.eq_iff_iff, contains_endings_iff, h]
    simp
  rw [exportedManifest_eq]
  split
  · exact hc
  · next hn =>
      have he : s.endings.contains id ≠ true := fun he =>
        hn (.inr (SortedMap.isEmpty_eq_false_iff.2 ⟨id, he⟩))
      rw [← hc, Bool.eq_false_iff.2 he]
      rfl

/-- The exported files are read as the story whose pages are read from their exported texts. -/
theorem ofFiles_toFiles (h : s.Storable) : ofFiles s.toFiles s.assets.keys = .ok s.reloaded := by
  obtain ⟨d, hd, hp, hm⟩ := Draft.foldlM_addFile (d := ⟨.empty, none⟩) h.readable
    s.toFiles.keys_nodup fun _ _ => rfl
  have hpages : d.finish = s.reloaded.pages := by
    refine SortedMap.eq_of_get? fun id => ?_
    rw [Draft.get?_finish, reloaded, SortedMap.get?_mapValues, hp, pageIn_toFiles, hm,
      h.manifestIn_toFiles]
    simp only [SortedMap.get?_empty, Option.or_none]
    cases hs : s.pages.get? id with
    | none => rfl
    | some page =>
        simp only [Option.map_some, any_exportedManifest hs]
        rfl
  rw [h.manifestIn_toFiles, Option.or_none] at hm
  rw [ofFiles, hd]
  change Except.ok (Story.mk d.finish _ d.manifest) = _
  rw [hpages, hm, SortedMap.entries_unit, SortedMap.ofList_entries]
  rfl

end Story
end Gamebook
