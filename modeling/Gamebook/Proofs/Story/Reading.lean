import Gamebook.Proofs.Story.Files

/-!
# Reading files one by one

A file that is accepted adds the page that it holds under the page's id, which had none before. So
the pages that are read are those that files hold, each in one file.
-/

namespace Gamebook

theorem bind_eq_ok {ε α β : Type} {x : Except ε α} {f : α → Except ε β} {b : β}
    (h : (x >>= f) = .ok b) : ∃ a, x = .ok a ∧ f a = .ok b := by
  cases x with
  | error e => cases h
  | ok a => exact ⟨a, rfl, h⟩

namespace Story

theorem pageOfRecord_eq_ok {id : PageId} {content : String} {page : Page}
    (h : pageOfRecord id content = .ok page) :
    ∃ record, PageRecord.ofText content = .ok record ∧ record.page = .ok page := by
  unfold pageOfRecord at h
  split at h
  · cases h
  · next record hr =>
      split at h
      · next hp =>
          cases h
          exact ⟨record, hr, hp⟩
      · cases h

namespace Draft

open FileRole

/-- The page that a file holds, under its id. -/
def pageOf? (file : String × String) : Option (PageId × Page) :=
  match ofPath file.1 with
  | .source id => some (id, .ofSource file.2)
  | .record id => (pageOfRecord id file.2).toOption.map (id, ·)
  | _ => none

/-- The manifest that a file holds. -/
def manifestHeld? (file : String × String) : Option Manifest :=
  if ofPath file.1 = .manifest then manifestOf? file.2 else none

/-- What a file that is accepted makes of a draft. -/
inductive Reads (d : Draft) : String × String → Draft → Prop
  | manifest {path content : String} {m : Manifest} (hr : ofPath path = .manifest)
      (hm : manifestOf? content = some m) : Reads d (path, content) { d with manifest := some m }
  | page {path content : String} {id : PageId} {page : Page}
      (hp : pageOf? (path, content) = some (id, page)) (hn : d.pages.get? id = none) :
      Reads d (path, content) { d with pages := d.pages.insert id (path, page) }
  | other {path content : String} (hr : ofPath path = .other) : Reads d (path, content) d

variable {d next : Draft} {file : String × String} {files : List (String × String)}
  {path content : String} {id : PageId} {page : Page}

theorem pageOf?_source (h : Names ".txt" path id) :
    pageOf? (path, content) = some (id, .ofSource content) := by
  simp only [pageOf?, ofPath_eq_source_iff.2 h]

theorem pageOf?_record (h : Names ".json" path id) :
    pageOf? (path, content) = (pageOfRecord id content).toOption.map (id, ·) := by
  simp only [pageOf?, ofPath_eq_record_iff.2 h]

theorem pageOf?_record_eq_some (h : Names ".json" path id)
    (hp : pageOf? (path, content) = some (id, page)) :
    ∃ record, PageRecord.ofText content = .ok record ∧ record.page = .ok page := by
  rw [pageOf?_record h] at hp
  cases hc : pageOfRecord id content with
  | error e =>
      rw [hc] at hp
      cases hp
  | ok p =>
      rw [hc] at hp
      cases hp
      exact pageOfRecord_eq_ok hc

theorem holdsPage_of_pageOf? (h : pageOf? (path, content) = some (id, page)) :
    HoldsPage path id := by
  simp only [pageOf?] at h
  split at h
  · next hr =>
      cases h
      exact .inl (ofPath_eq_source_iff.1 hr)
  · next hr =>
      obtain ⟨p, -, hp⟩ := Option.map_eq_some_iff.1 h
      cases hp
      exact .inr (ofPath_eq_record_iff.1 hr)
  · cases h

theorem reads_of_addPage (hp : pageOf? (path, content) = some (id, page))
    (h : d.addPage path id page = .ok next) : d.Reads (path, content) next := by
  unfold addPage at h
  split at h
  · cases h
  · next hn =>
      cases h
      exact .page hp hn

theorem reads_of_addFile (h : d.addFile file = .ok next) : d.Reads file next := by
  obtain ⟨path, content⟩ := file
  simp only [addFile] at h
  split at h
  · next hr =>
      split at h
      · next hm =>
          cases h
          exact .manifest hr hm
      · cases h
  · next hr => exact reads_of_addPage (pageOf?_source (ofPath_eq_source_iff.1 hr)) h
  · next id hr =>
      obtain ⟨page, hp, h⟩ := bind_eq_ok h
      have hp : pageOf? (path, content) = some (id, page) := by
        rw [pageOf?_record (ofPath_eq_record_iff.1 hr), hp]
        rfl
      exact reads_of_addPage hp h
  · cases h
  · next hr =>
      cases h
      exact .other hr

/-! ## What one file adds -/

/-- A file adds the page that it holds, and none if it holds none. -/
theorem Reads.get?_iff (h : d.Reads file next) {path : String} {id : PageId} {page : Page} :
    next.pages.get? id = some (path, page) ↔
      d.pages.get? id = some (path, page) ∨ path = file.1 ∧ pageOf? file = some (id, page) := by
  cases h with
  | manifest hr => simp [pageOf?, hr]
  | other hr => simp [pageOf?, hr]
  | @page p c i q hp hn =>
      -- The id had no page before, so what stands there now is the page of this file alone.
      rw [SortedMap.get?_insert, hp]
      by_cases hi : id = i
      · subst hi
        simp [hn, Std.ReflCmp.compare_self, eq_comm]
      · have hc : ¬ compare id i = .eq := fun hc => hi (Std.LawfulEqCmp.eq_of_compare hc)
        simp [hc, Ne.symm hi]

/-- A manifest takes the place of the one read before. -/
theorem Reads.manifest_eq (h : d.Reads file next) :
    next.manifest = (manifestHeld? file).or d.manifest := by
  cases h with
  | manifest hr hm => rw [manifestHeld?, if_pos hr, hm, Option.some_or]
  | other hr => simp [manifestHeld?, hr]
  | @page path content id page hp =>
      have hr : ofPath path ≠ .manifest := fun hm => by simp [pageOf?, hm] at hp
      rw [manifestHeld?, if_neg hr, Option.none_or]

/-- A file that is named by a page id holds the page, unless it is refused. -/
theorem Reads.exists_page (h : d.Reads file next) (hn : HoldsPage file.1 id) :
    ∃ page, pageOf? file = some (id, page) := by
  have hr := holdsPage_iff.1 hn
  cases h with
  | manifest hm => simp [hm] at hr
  | other ho => simp [ho] at hr
  | @page path content i page hp =>
      have hi := hn.unique (holdsPage_of_pageOf? hp)
      exact ⟨page, hi ▸ hp⟩

/-- A text is named by a page id, unless it is refused. -/
theorem Reads.exists_id (h : d.Reads file next) (ht : ".txt".toList <:+ fileName file.1.toList) :
    ∃ id, HoldsPage file.1 id := by
  refine (ofPath_of_text ht).resolve_right fun hm => ?_
  cases h with
  | manifest hr => cases hr.symm.trans hm
  | other hr => cases hr.symm.trans hm
  | page hp => simp [pageOf?, hm] at hp

/-! ## What all files add -/

theorem exists_reads_of_foldlM (h : files.foldlM addFile d = .ok next) (hf : file ∈ files) :
    ∃ d next : Draft, d.Reads file next := by
  induction files generalizing d with
  | nil => cases hf
  | cons f files ih =>
      obtain ⟨mid, ha, h⟩ := bind_eq_ok h
      rcases List.mem_cons.1 hf with rfl | hf
      · exact ⟨d, mid, reads_of_addFile ha⟩
      · exact ih h hf

/-- The pages that are read are those that the files hold, besides those of the draft. -/
theorem get?_foldlM_iff (h : files.foldlM addFile d = .ok next) :
    next.pages.get? id = some (path, page) ↔
      d.pages.get? id = some (path, page) ∨
        ∃ content, (path, content) ∈ files ∧ pageOf? (path, content) = some (id, page) := by
  induction files generalizing d with
  | nil =>
      cases h
      simp
  | cons f files ih =>
      obtain ⟨mid, ha, h⟩ := bind_eq_ok h
      rw [ih h, (reads_of_addFile ha).get?_iff, or_assoc]
      refine or_congr_right ?_
      simp only [List.mem_cons]
      constructor
      · rintro (⟨rfl, hp⟩ | ⟨content, hm, hp⟩)
        · exact ⟨f.2, .inl rfl, hp⟩
        · exact ⟨content, .inr hm, hp⟩
      · rintro ⟨content, rfl | hm, hp⟩
        · exact .inl ⟨rfl, hp⟩
        · exact .inr ⟨content, hm, hp⟩

/-- Of several manifests the last is kept. -/
theorem manifest_foldlM (h : files.foldlM addFile d = .ok next) :
    next.manifest = (files.filterMap manifestHeld?).getLast?.or d.manifest := by
  induction files generalizing d with
  | nil =>
      cases h
      rfl
  | cons f files ih =>
      obtain ⟨mid, ha, h⟩ := bind_eq_ok h
      rw [ih h, (reads_of_addFile ha).manifest_eq, List.filterMap_cons]
      -- A manifest of this file counts only if none comes behind it.
      cases manifestHeld? f with
      | none => rfl
      | some m =>
          rw [List.getLast?_cons, Option.some_or, Option.some_or]
          cases (files.filterMap manifestHeld?).getLast? <;> rfl

end Draft
end Story
end Gamebook
