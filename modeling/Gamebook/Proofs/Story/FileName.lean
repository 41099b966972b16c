import Gamebook.Proofs.PageId.Written
import Gamebook.Story.Files

/-!
# Names of files

The name of a file says what it holds. Texts and records of pages are named by page ids, in any
spelling and in any folder; the name of a page's exported file is the id as it is written.
-/

namespace Gamebook

namespace FileRole

variable {ending path : String} {name stem : Text} {id : PageId}

theorem fileName_of_not_mem {path : Text} (h : '/' ∉ path) : fileName path = path := by
  have hp : ∀ c ∈ path.reverse, decide (c ≠ '/') = true := by
    intro c hc
    rw [decide_eq_true_eq]
    rintro rfl
    exact h (List.mem_reverse.1 hc)
  have ht : (path.reverse ++ []).takeWhile (· ≠ '/') = path.reverse ++ [].takeWhile (· ≠ '/') :=
    List.takeWhile_append_of_pos hp
  rw [List.append_nil, List.takeWhile_nil, List.append_nil] at ht
  rw [fileName, ht, List.reverse_reverse]

theorem stem?_append (stem : Text) (ending : String) :
    stem? ending (stem ++ ending.toList) = some stem := by
  rw [stem?, if_pos (List.isSuffixOf_iff_suffix.2 (List.suffix_append ..)), List.length_append,
    Nat.add_sub_cancel, List.take_left']
  rfl

theorem stem?_eq_none_iff : stem? ending name = none ↔ ¬ ending.toList <:+ name := by
  rw [stem?, ← List.isSuffixOf_iff_suffix]
  split
  · next h => exact iff_of_false nofun (not_not_intro h)
  · next h => exact iff_of_true rfl h

theorem stem?_eq_some_iff : stem? ending name = some stem ↔ name = stem ++ ending.toList := by
  constructor
  · intro h
    have hs : ending.toList <:+ name := Classical.byContradiction fun hn => by
      rw [stem?_eq_none_iff.2 hn] at h
      cases h
    obtain ⟨front, rfl⟩ := hs
    rw [stem?_append] at h
    rw [Option.some.inj h]
  · rintro rfl
    exact stem?_append stem ending

/-! ## Pages -/

/-- Whether a file has a page id for its name, in some spelling, and this ending. -/
def Names (ending path : String) (id : PageId) : Prop :=
  ∃ stem : Text, fileName path.toList = stem ++ ending.toList ∧
    PageId.parse? (String.ofList stem) = some id

theorem text_ne {name' : Text} (h : ".txt".toList <:+ name) (h' : ".json".toList <:+ name') :
    name ≠ name' := by
  rintro rfl
  exact absurd (List.suffix_of_suffix_length_le h h' (by decide)) (by decide)

theorem ofPath_text (h : fileName path.toList = stem ++ ".txt".toList) :
    ofPath path =
      match PageId.parse? (String.ofList stem) with
      | some id => source id
      | none => misnamed := by
  have hm : stem ++ ".txt".toList ≠ manifestName.toList :=
    text_ne (List.suffix_append ..) (by decide)
  cases hp : PageId.parse? (String.ofList stem) <;>
    simp only [ofPath, h, if_neg hm, stem?_append, hp]

theorem ofPath_eq_source_iff : ofPath path = source id ↔ Names ".txt" path id := by
  constructor
  · intro h
    simp only [ofPath] at h
    split at h
    · cases h
    · split at h
      · next stem hs =>
          split at h
          · next hp =>
              cases h
              exact ⟨stem, stem?_eq_some_iff.1 hs, hp⟩
          · cases h
      · split at h <;> cases h
      · cases h
  · rintro ⟨stem, hn, hp⟩
    rw [ofPath_text hn, hp]

theorem ofPath_eq_record_iff : ofPath path = record id ↔ Names ".json" path id := by
  constructor
  · intro h
    simp only [ofPath] at h
    split at h
    · cases h
    · split at h
      · split at h <;> cases h
      · next stem _ hs =>
          split at h
          · next hp =>
              cases h
              exact ⟨stem, stem?_eq_some_iff.1 hs, hp⟩
          · cases h
      · cases h
  · rintro ⟨stem, hn, hp⟩
    -- `story` is no page id, so the manifest is no record.
    have hm : stem ++ ".json".toList ≠ manifestName.toList := by
      have hs : manifestName.toList = "story".toList ++ ".json".toList := by decide
      rw [hs, ne_eq, List.append_cancel_right_eq]
      rintro rfl
      have hn : PageId.parse? (String.ofList "story".toList) = none := by decide
      exact absurd (hn.symm.trans hp) nofun
    have ht : stem? ".txt" (stem ++ ".json".toList) = none :=
      stem?_eq_none_iff.2 fun ht => text_ne ht (List.suffix_append ..) rfl
    simp only [ofPath, hn, if_neg hm, ht, stem?_append, hp]

/-- Whether a file holds the page of an id: a text or a record that is named by it. -/
def HoldsPage (path : String) (id : PageId) : Prop := Names ".txt" path id ∨ Names ".json" path id

theorem holdsPage_iff : HoldsPage path id ↔ ofPath path = source id ∨ ofPath path = record id := by
  rw [HoldsPage, ofPath_eq_source_iff, ofPath_eq_record_iff]

/-- The name of a file is a spelling of one id at most. -/
theorem HoldsPage.unique {id' : PageId} (h : HoldsPage path id) (h' : HoldsPage path id') :
    id' = id := by
  rw [holdsPage_iff] at h h'
  rcases h with h | h <;> rw [h] at h' <;> simpa [eq_comm] using h'

/-- A text is named by a page id or misnamed. -/
theorem ofPath_of_text (h : ".txt".toList <:+ fileName path.toList) :
    (∃ id, HoldsPage path id) ∨ ofPath path = misnamed := by
  obtain ⟨stem, hs⟩ := h
  cases hp : PageId.parse? (String.ofList stem) with
  | some id => exact .inl ⟨id, .inl ⟨stem, hs.symm, hp⟩⟩
  | none => exact .inr (by rw [ofPath_text hs.symm, hp])

theorem ofPath_sourceName (id : PageId) : ofPath (Story.sourceName id) = source id := by
  have ht : (Story.sourceName id).toList = id.toText ++ ".txt".toList := by
    have hi : (toString id).toList = id.toText := String.toList_ofList
    rw [Story.sourceName, String.toList_append, hi]
  have hs : '/' ∉ id.toText ++ ".txt".toList := by
    rw [List.mem_append, not_or]
    exact ⟨id.not_mem_toText rfl, by decide⟩
  exact ofPath_eq_source_iff.2 ⟨id.toText, by rw [ht, fileName_of_not_mem hs], id.parse?_toText⟩

theorem ofPath_manifestName : ofPath manifestName = manifest := by
  decide

end FileRole

namespace Story

theorem sourceName_injective {p q : PageId} (h : sourceName p = sourceName q) : p = q := by
  have hp := FileRole.ofPath_sourceName p
  rw [h, FileRole.ofPath_sourceName q] at hp
  exact (FileRole.source.inj hp).symm

theorem sourceName_ne_manifestName (id : PageId) : sourceName id ≠ FileRole.manifestName := by
  intro h
  have hp := FileRole.ofPath_sourceName id
  rw [h, FileRole.ofPath_manifestName] at hp
  cases hp

end Story
end Gamebook
