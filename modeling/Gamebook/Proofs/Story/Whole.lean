import Gamebook.Proofs.Story.Loading
import Mathlib.Logic.ExistsUnique

/-!
# Nothing is lost when a story is read

A story that is read from files has a page for every text and for every record that is named by a
page id, each as its file has it, and no other pages; files whose names are spellings of one id are
refused.
-/

namespace Gamebook

open FileRole

namespace PageRecord

/-- Whether a stored page is said to be an ending. -/
def saysEnding : PageRecord → Bool
  | source _ => false
  | structured _ _ _ isEnding _ => isEnding

theorem isEnding_of_page {r : PageRecord} {p : Page} (h : r.page = .ok p) :
    p.isEnding = r.saysEnding := by
  cases r with
  | source content =>
      cases h
      rfl
  | structured version content hasChoices isEnding choices =>
      rw [page] at h
      split at h
      · cases h
      · obtain ⟨cs, -, h⟩ := bind_eq_ok h
        cases h
        rfl

end PageRecord

namespace Story

/-- Whether the manifest of a story lists a page as an ending. -/
def lists (s : Story) (id : PageId) : Bool := s.manifest.any fun m => m.endings.contains id

/-- What a story has of files, if nothing of them is lost. Texts, and records that are named by a
page id, are files of pages; by the ids that their names are spellings of they correspond one to one
to the pages of the story. Each page is what its file holds, and an ending if a record says so or the
manifest lists it, which is the last one among the files. A page is marked by its choices, these have
different letters, and if there are none then no line of its text offers any. -/
structure ReadFrom (files : SortedMap String String) (s : Story) : Prop where
  file : ∀ path, files.contains path = true →
    (".txt".toList <:+ fileName path.toList ∨ ∃ id, Names ".json" path id) →
    ∃! id, s.pages.contains id = true ∧ HoldsPage path id
  page : ∀ id, s.pages.contains id = true → ∃! path, files.contains path = true ∧ HoldsPage path id
  text : ∀ path content id, files.get? path = some content → Names ".txt" path id →
    s.pages.get? id = some { Page.ofSource content with isEnding := s.lists id }
  record : ∀ path content id, files.get? path = some content → Names ".json" path id →
    ∃ record page, PageRecord.ofText content = .ok record ∧ record.page = .ok page ∧
      s.pages.get? id = some { page with isEnding := record.saysEnding || s.lists id }
  manifest : s.manifest = (files.entries.filterMap Draft.manifestHeld?).getLast?
  lettered : ∀ id page, s.pages.get? id = some page →
    (∀ c ∈ page.choices, ∃ l : Letter, c.letter = l.toChar) ∧
      (page.choices.map (·.letter)).Nodup
  marked : ∀ id page, s.pages.get? id = some page →
    (page.hasChoices = true ↔ page.choices ≠ [])
  unoffered : ∀ id page, s.pages.get? id = some page → page.choices = [] →
    ∀ line ∈ Text.lines (Text.unixLines page.content.toList),
      Choice.ofLine? (Text.dropLineFeed line) = none

variable {files : SortedMap String String} {assets : List String} {s : Story} {id : PageId}

/-- The pages of a story are those that its files hold, endings where the manifest lists them. -/
theorem get?_ofFiles_iff (h : ofFiles files assets = .ok s) {page : Page} :
    s.pages.get? id = some page ↔
      ∃ path content written, files.get? path = some content ∧
        Draft.pageOf? (path, content) = some (id, written) ∧
        page = { written with isEnding := written.isEnding || s.lists id } := by
  obtain ⟨d, hf, h⟩ := bind_eq_ok h
  cases h
  have hp (path : String) (written : Page) : d.pages.get? id = some (path, written) ↔
      ∃ content, (path, content) ∈ files.entries ∧
        Draft.pageOf? (path, content) = some (id, written) := by
    rw [Draft.get?_foldlM_iff hf, SortedMap.get?_empty]
    simp only [reduceCtorEq, false_or]
  simp only [Draft.get?_finish, Option.map_eq_some_iff, Prod.exists, hp, lists, SortedMap.get?_eq_some_iff]
  constructor
  · rintro ⟨path, written, ⟨content, hm, hw⟩, he⟩
    exact ⟨path, content, written, hm, hw, he.symm⟩
  · rintro ⟨path, content, written, hm, hw, he⟩
    exact ⟨path, written, ⟨content, hm, hw⟩, he.symm⟩

theorem exists_reads (h : ofFiles files assets = .ok s) {path content : String}
    (hc : files.get? path = some content) : ∃ d next : Draft, d.Reads (path, content) next := by
  obtain ⟨d, hf, -⟩ := bind_eq_ok h
  exact Draft.exists_reads_of_foldlM hf (SortedMap.get?_eq_some_iff.1 hc)

theorem exists_pageOf? (h : ofFiles files assets = .ok s) {path content : String}
    (hc : files.get? path = some content) (hid : HoldsPage path id) :
    ∃ written, Draft.pageOf? (path, content) = some (id, written) := by
  obtain ⟨d, next, hr⟩ := exists_reads h hc
  exact hr.exists_page hid

/-- Two files of one page are the same file. -/
theorem path_unique (h : ofFiles files assets = .ok s) {path path' content content' : String}
    {page page' : Page} (hc : files.get? path = some content)
    (hc' : files.get? path' = some content')
    (hp : Draft.pageOf? (path, content) = some (id, page))
    (hp' : Draft.pageOf? (path', content') = some (id, page')) : path' = path := by
  obtain ⟨d, hf, -⟩ := bind_eq_ok h
  have hd := (Draft.get?_foldlM_iff hf).2
    (.inr ⟨content, SortedMap.get?_eq_some_iff.1 hc, hp⟩)
  have hd' := (Draft.get?_foldlM_iff hf).2
    (.inr ⟨content', SortedMap.get?_eq_some_iff.1 hc', hp'⟩)
  exact (Prod.mk.inj (Option.some.inj (hd'.symm.trans hd))).1

/-- Reading files loses nothing. -/
theorem readFrom_of_ofFiles (h : ofFiles files assets = .ok s) : s.ReadFrom files where
  file path hc hn := by
    obtain ⟨content, hc⟩ := SortedMap.contains_iff.1 hc
    obtain ⟨d, next, hr⟩ := exists_reads h hc
    have hid : ∃ id, HoldsPage path id := hn.elim hr.exists_id fun ⟨id, hn⟩ => ⟨id, .inr hn⟩
    obtain ⟨id, hid⟩ := hid
    obtain ⟨written, hw⟩ := exists_pageOf? h hc hid
    have hp := (get?_ofFiles_iff h).2 ⟨path, content, written, hc, hw, rfl⟩
    exact ⟨id, ⟨SortedMap.contains_iff.2 ⟨_, hp⟩, hid⟩, fun id' hid' => hid.unique hid'.2⟩
  page id hp := by
    obtain ⟨page, hp⟩ := SortedMap.contains_iff.1 hp
    obtain ⟨path, content, written, hc, hw, -⟩ := (get?_ofFiles_iff h).1 hp
    refine ⟨path, ⟨SortedMap.contains_iff.2 ⟨content, hc⟩, Draft.holdsPage_of_pageOf? hw⟩, ?_⟩
    rintro path' ⟨hc', hid⟩
    -- The other file is accepted as well, so it holds a page of the id, which has one file only.
    obtain ⟨content', hc'⟩ := SortedMap.contains_iff.1 hc'
    obtain ⟨written', hw'⟩ := exists_pageOf? h hc' hid
    exact path_unique h hc hc' hw hw'
  text path content id hc hn :=
    (get?_ofFiles_iff h).2 ⟨path, content, _, hc, Draft.pageOf?_source hn, by simp [Page.ofSource]⟩
  record path content id hc hn := by
    obtain ⟨written, hw⟩ := exists_pageOf? h hc (.inr hn)
    obtain ⟨record, ht, hp⟩ := Draft.pageOf?_record_eq_some hn hw
    refine ⟨record, written, ht, hp, (get?_ofFiles_iff h).2 ⟨path, content, written, hc, hw, ?_⟩⟩
    rw [PageRecord.isEnding_of_page hp]
  manifest := by
    obtain ⟨d, hf, h⟩ := bind_eq_ok h
    cases h
    rw [Draft.manifest_foldlM hf, Option.or_none]
  lettered id page hp := ⟨((loaded_of_ofFiles h).pages id page hp).letters,
    ((loaded_of_ofFiles h).pages id page hp).distinct⟩
  marked id page hp := by
    rw [((loaded_of_ofFiles h).pages id page hp).marked]
    simp
  unoffered id page hp hn :=
    Choice.split_eq_nil_iff.1 (((loaded_of_ofFiles h).pages id page hp).own hn)

/-- A text and a record in different folders, the record under a spelling of its id in capitals and
listed as an ending, and a file that is none of the story. -/
theorem readFrom_of_hall :
    let hallId : PageId := { number := 2, path := [.a] }
    let files : SortedMap String String := .ofList
      [("2A.json", "\x7b\"version\":2,\"content\":\"Hall\"," ++
          "\"choices\":[\x7b\"letter\":\"B\",\"text\":\"Back\"\x7d]\x7d"),
        ("notes.md", "To do"), ("pages/01.txt", "Start\na) Left"),
        ("story.json", "\x7b\"endings\":[\"2a\"]\x7d")]
    let s : Story := ⟨.ofList [(.root, .ofSource "Start\na) Left"),
      (hallId, ⟨"Hall", true, true, [⟨'b', "Back", none⟩]⟩)], .empty,
      some { endings := .ofList [(hallId, ())] }⟩
    ofFiles files [] = .ok s ∧ s.ReadFrom files := by
  intro hallId files s
  have h : ofFiles files [] = .ok s := ok_of_toOption (by decide +kernel)
  exact ⟨h, readFrom_of_ofFiles h⟩

end Story
end Gamebook
