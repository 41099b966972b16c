import Gamebook.Proofs.PageId.Descendants
import Gamebook.Proofs.SortedMap

/-!
# Subtrees

The subtree of a page is the page with all that words lead to from it through pages of the story, each
once and in order. Deleting it takes out these pages and leaves all others as they are.
-/

namespace Gamebook.Pages

open PageId (Hangs Before)

variable {pages : Pages} {id q : PageId}

theorem mem_subtree_iff :
    q ∈ pages.subtree id ↔ ∃ w, Hangs pages.keys id w ∧ q = id.below w := by
  rw [subtree, List.mem_cons, PageId.mem_descendants_iff]
  constructor
  · rintro (rfl | ⟨w, -, hw, rfl⟩)
    · exact ⟨[], PageId.hangs_nil, rfl⟩
    · exact ⟨w, hw, rfl⟩
  · rintro ⟨w, hw, rfl⟩
    by_cases h : w = []
    · exact .inl (h ▸ rfl)
    · exact .inr ⟨w, h, hw, rfl⟩

theorem below_mem_subtree_iff {w : List Letter} :
    id.below w ∈ pages.subtree id ↔ Hangs pages.keys id w := by
  rw [mem_subtree_iff]
  constructor
  · rintro ⟨v, hv, he⟩
    rwa [PageId.below_injective he]
  · exact fun hw => ⟨w, hw, rfl⟩

theorem contains_of_mem_subtree (h : pages.contains id = true) (hq : q ∈ pages.subtree id) :
    pages.contains q = true := by
  obtain ⟨w, hw, rfl⟩ := mem_subtree_iff.1 hq
  by_cases hn : w = []
  · exact hn ▸ h
  · exact SortedMap.mem_keys_iff.1 (hw w hn (List.prefix_refl w))

theorem subtree_nodup : (pages.subtree id).Nodup := by
  refine List.nodup_cons.2 ⟨fun h => ?_, id.descendants_nodup pages.keys⟩
  obtain ⟨w, hw, -, he⟩ := PageId.mem_descendants_iff.1 h
  exact PageId.below_ne hw he.symm

theorem deleteSubtree_eq_ok (h : pages.contains id = true) : pages.deleteSubtree id =
    .ok ((pages.subtree id).foldl SortedMap.erase pages, pages.subtree id) :=
  if_pos h

theorem deleteSubtree_eq_error (h : pages.contains id = false) :
    pages.deleteSubtree id = .error (.missing id) :=
  if_neg (Bool.eq_false_iff.1 h)

/-- The descendants of a page are listed once each, in order, and are those to which a word leads
through existing pages. Deleting a page fails exactly where there is none, and else takes out the page
and its descendants and nothing more. -/
theorem deletes_exactly_descendants :
    (∀ (p : PageId) (existing : List PageId),
      (p.descendants existing).Nodup ∧ (p.descendants existing).Pairwise Before ∧
        ∀ q, q ∈ p.descendants existing ↔
          ∃ w, w ≠ [] ∧ (∀ v, v ≠ [] → v <+: w → p.below v ∈ existing) ∧ q = p.below w) ∧
    ∀ (pages : Pages) (id : PageId),
      ((∃ r, pages.deleteSubtree id = .error r ∧ r.report.code = "GRAPH_PAGE_MISSING") ↔
        pages.contains id = false) ∧
      (pages.contains id = true → ∃ rest,
        pages.deleteSubtree id = .ok (rest, id :: id.descendants pages.keys) ∧
          ∀ q, rest.get? q =
            if q ∈ id :: id.descendants pages.keys then none else pages.get? q) := by
  refine ⟨fun p existing => ⟨p.descendants_nodup existing, p.descendants_pairwise existing,
    fun q => PageId.mem_descendants_iff⟩, fun pages id => ⟨⟨?_, fun h => ?_⟩, fun h => ?_⟩⟩
  · rintro ⟨r, hr, -⟩
    by_contra hc
    cases (deleteSubtree_eq_ok (eq_true_of_ne_false hc)).symm.trans hr
  · exact ⟨.missing id, deleteSubtree_eq_error h, rfl⟩
  · exact ⟨_, deleteSubtree_eq_ok h, SortedMap.get?_foldl_erase (pages.subtree id) pages⟩

end Gamebook.Pages
