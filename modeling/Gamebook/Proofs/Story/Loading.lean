import Gamebook.Proofs.Story.Reading

/-!
# What holds of a loaded story

Every page of a story that is read from files has its choices under different letters, is marked by
them, and offers no others in its text if it has none. The manifest can be written again.
-/

namespace Gamebook

theorem ok_of_toOption {ε α : Type} {x : Except ε α} {a : α} (h : x.toOption = some a) :
    x = .ok a := by
  cases x with
  | error e => cases h
  | ok b => exact congrArg Except.ok (Option.some.inj h)

/-! ## Stored pages -/

namespace ChoiceRecord

theorem lettered_addTo {cs next : List Choice} {c : ChoiceRecord} (h : Choice.Lettered cs)
    (ha : addTo cs c = .ok next) : Choice.Lettered next := by
  obtain ⟨l, -, ha⟩ := bind_eq_ok ha
  obtain ⟨target, -, ha⟩ := bind_eq_ok ha
  split at ha
  · cases ha
  · next hn =>
    cases ha
    exact Choice.lettered_concat_iff.2 ⟨h, ⟨l, rfl⟩, Bool.eq_false_iff.2 hn⟩

theorem lettered_foldlM {records : List ChoiceRecord} {cs next : List Choice}
    (h : Choice.Lettered cs) (hr : records.foldlM addTo cs = .ok next) : Choice.Lettered next := by
  induction records generalizing cs with
  | nil =>
      cases hr
      exact h
  | cons r records ih =>
      obtain ⟨mid, ha, hr⟩ := bind_eq_ok hr
      exact ih (lettered_addTo h ha) hr

end ChoiceRecord

namespace Page

theorem Loaded.of_lettered {content : String} {isEnding : Bool} {cs : List Choice}
    (h : Choice.Lettered cs) (ho : cs = [] → (Choice.split content.toList).1 = []) :
    (Page.mk content (!cs.isEmpty) isEnding cs).Loaded :=
  ⟨rfl, ho, h.1, h.2⟩

theorem loaded_ofSource (content : String) : (ofSource content).Loaded :=
  .of_lettered (Choice.lettered_split _) id

theorem Loaded.withEnding {p : Page} (h : p.Loaded) (isEnding : Bool) :
    { p with isEnding }.Loaded :=
  ⟨h.marked, h.own, h.letters, h.distinct⟩

theorem loaded_of_record {r : PageRecord} {p : Page} (h : r.page = .ok p) : p.Loaded := by
  cases r with
  | source content =>
      cases h
      exact loaded_ofSource content
  | structured version content hasChoices isEnding choices =>
      rw [PageRecord.page] at h
      split at h
      · cases h
      · obtain ⟨cs, hc, h⟩ := bind_eq_ok h
        cases h
        by_cases hn : cs = []
        · rw [if_pos hn]
          exact .of_lettered (Choice.lettered_split _) id
        · rw [if_neg hn]
          exact .of_lettered (ChoiceRecord.lettered_foldlM Choice.lettered_nil hc)
            fun he => absurd he hn

end Page

/-! ## Stories -/

namespace Story

namespace Draft

/-- What holds of a draft: its pages are loaded ones, and its manifest can be written. -/
structure Loaded (d : Draft) : Prop where
  pages : ∀ id path page, d.pages.get? id = some (path, page) → page.Loaded
  manifest : ∀ m, d.manifest = some m → m.config.Storable

theorem loaded_empty : Loaded ⟨.empty, none⟩ := ⟨nofun, nofun⟩

variable {d next : Draft} {file : String × String}

theorem loaded_of_pageOf? {id : PageId} {page : Page} (h : pageOf? file = some (id, page)) :
    page.Loaded := by
  obtain ⟨path, content⟩ := file
  rcases holdsPage_of_pageOf? h with hn | hn
  · rw [pageOf?_source hn] at h
    cases h
    exact Page.loaded_ofSource content
  · obtain ⟨record, -, hp⟩ := pageOf?_record_eq_some hn h
    exact Page.loaded_of_record hp

theorem Loaded.reads (h : d.Loaded) (hr : d.Reads file next) : next.Loaded := by
  refine ⟨fun id path page hp => ?_, fun m hm => ?_⟩
  · rcases hr.get?_iff.1 hp with hp | ⟨-, hp⟩
    · exact h.pages id path page hp
    · exact loaded_of_pageOf? hp
  · cases hr with
    | manifest _ hj =>
        cases hm
        obtain ⟨v, -, hv⟩ := Option.bind_eq_some_iff.1 hj
        exact Manifest.storable_of_ofJson? hv
    | page => exact h.manifest m hm
    | other => exact h.manifest m hm

theorem Loaded.foldlM_addFile {files : List (String × String)} (h : d.Loaded)
    (hf : files.foldlM Draft.addFile d = .ok next) : next.Loaded := by
  induction files generalizing d with
  | nil =>
      cases hf
      exact h
  | cons file files ih =>
      obtain ⟨mid, ha, hf⟩ := bind_eq_ok hf
      exact ih (h.reads (reads_of_addFile ha)) hf

end Draft

/-- What holds of a story that is read from files. -/
structure Loaded (s : Story) : Prop where
  pages : ∀ id page, s.pages.get? id = some page → page.Loaded
  storable : s.Storable

theorem loaded_of_ofFiles {files : SortedMap String String} {assets : List String} {s : Story}
    (h : ofFiles files assets = .ok s) : s.Loaded := by
  obtain ⟨d, hf, h⟩ := bind_eq_ok h
  cases h
  have hd := Draft.loaded_empty.foldlM_addFile hf
  refine ⟨fun id page hp => ?_, hd.manifest⟩
  rw [Draft.get?_finish] at hp
  obtain ⟨⟨path, q⟩, hq, rfl⟩ := Option.map_eq_some_iff.1 hp
  exact (hd.pages id path q hq).withEnding _

end Story
end Gamebook
