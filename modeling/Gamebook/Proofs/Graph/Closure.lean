import Gamebook.Graph.Edge
import Gamebook.Proofs.Graph.Reach

/-!
# The closure under moves

The pages that can be reached are the least set that holds the first page and, with a page, those that
a reader can move to from it. The edges drawn on the map make the same moves, but for choices without
words, so they lead to the same pages.
-/

namespace Gamebook

open Relation

namespace Pages

variable {pages : Pages} {id b : PageId} {page : Page}

theorem mem_successors_iff : b ∈ pages.successors id page ↔
    pages.contains b = true ∧ page.isEnding = false ∧
      ((∃ c ∈ page.choices, c.target? id = some b) ∨ page.choices = [] ∧ b = id.continuation) := by
  rw [successors]
  cases he : page.isEnding with
  | true => simp
  | false =>
      by_cases hc : page.choices = []
      · simp [hc, and_comm]
      · simp [hc, List.mem_filterMap, and_comm]

/-! ## Edges -/

theorem source_of_mem_edgesFrom {e : Edge} (h : e ∈ pages.edgesFrom id page) : e.source = id := by
  rw [edgesFrom] at h
  split at h
  · cases h
  · split at h
    · obtain ⟨c, -, he⟩ := List.mem_filterMap.1 h
      rw [choiceEdge?] at he
      split at he
      · cases he
      · obtain ⟨_, -, rfl⟩ := Option.map_eq_some_iff.1 he
        rfl
    · obtain ⟨_, -, rfl⟩ := List.mem_map.1 h
      rfl

theorem mem_edges_iff (hp : pages.get? id = some page) {e : Edge} :
    e ∈ pages.edges ∧ e.source = id ↔ e ∈ pages.edgesFrom id page := by
  rw [edges, List.mem_flatMap]
  constructor
  · rintro ⟨⟨⟨i, q⟩, hm, he⟩, hs⟩
    obtain rfl : i = id := (source_of_mem_edgesFrom he).symm.trans hs
    cases (SortedMap.get?_eq_some_iff.2 hm).symm.trans hp
    exact he
  · exact fun he => ⟨⟨(id, page), SortedMap.get?_eq_some_iff.1 hp, he⟩, source_of_mem_edgesFrom he⟩

/-- Where no choice is without words, the edges that leave a page lead to its successors. -/
theorem mem_successors_iff_edge (hw : ∀ c ∈ page.choices, Text.trim c.text.toList ≠ [])
    (hp : pages.get? id = some page) :
    b ∈ pages.successors id page ↔ ∃ e ∈ pages.edges, e.source = id ∧ e.target = b := by
  have he : (∃ e ∈ pages.edges, e.source = id ∧ e.target = b) ↔
      ∃ e ∈ pages.edgesFrom id page, e.target = b := by
    simp only [← mem_edges_iff hp, and_assoc]
  rw [he, successors, edgesFrom]
  cases page.isEnding with
  | true => simp
  | false =>
      by_cases hc : page.choices = []
      · cases hn : pages.contains id.continuation <;> simp [hc, hn, eq_comm]
      · simp only [Bool.false_eq_true, if_false, hc, ne_eq, not_false_eq_true, if_true,
          List.mem_filter, List.mem_filterMap]
        constructor
        · rintro ⟨⟨c, hm, ht⟩, hb⟩
          refine ⟨⟨id, b, some c.text⟩, ⟨c, hm, ?_⟩, rfl⟩
          rw [choiceEdge?, if_neg (hw c hm), ht, Option.filter_some, if_pos hb, Option.map_some]
        · rintro ⟨e, ⟨c, hm, hce⟩, rfl⟩
          rw [choiceEdge?, if_neg (hw c hm)] at hce
          obtain ⟨t, ht, rfl⟩ := Option.map_eq_some_iff.1 hce
          rw [Option.filter_eq_some_iff] at ht
          exact ⟨⟨c, hm, ht.1⟩, ht.2⟩

/-! ## Chains of moves -/

/-- Whether a reader can move from a page to another: both are there, and the first is no ending and
has a choice with the other as target or, if it has no choices, the other as continuation. -/
def MovesTo (pages : Pages) (a b : PageId) : Prop :=
  ∃ page, pages.get? a = some page ∧ pages.contains b = true ∧ page.isEnding = false ∧
    ((∃ c ∈ page.choices, c.target? a = some b) ∨ page.choices = [] ∧ b = a.continuation)

/-- Whether an edge is drawn from a page to another. -/
def Drawn (pages : Pages) (a b : PageId) : Prop := ∃ e ∈ pages.edges, e.source = a ∧ e.target = b

/-- Whether a chain of moves leads from a page that is there to another. -/
def Chained (pages : Pages) (root id : PageId) : Prop :=
  pages.contains root = true ∧ ReflTransGen pages.MovesTo root id

theorem leads_eq_movesTo : pages.Leads = pages.MovesTo := by
  funext a b
  simp only [Leads, MovesTo, mem_successors_iff]

theorem contains_reachable_iff_chained {root id : PageId} :
    (pages.reachable root).contains id = true ↔ pages.Chained root id := by
  rw [contains_reachable_iff, leads_eq_movesTo, Chained]

theorem contains_of_mem_edges {e : Edge} (h : e ∈ pages.edges) : pages.contains e.source = true := by
  obtain ⟨⟨id, page⟩, hm, he⟩ := List.mem_flatMap.1 h
  rw [source_of_mem_edgesFrom he]
  exact SortedMap.contains_iff.2 ⟨page, SortedMap.get?_eq_some_iff.2 hm⟩

theorem drawn_eq_leads (hw : ∀ id page, pages.get? id = some page →
    ∀ c ∈ page.choices, Text.trim c.text.toList ≠ []) : pages.Drawn = pages.Leads := by
  funext a b
  refine propext ⟨fun h => ?_, fun h => ?_⟩
  · obtain ⟨e, he, rfl, rfl⟩ := h
    obtain ⟨page, hp⟩ := SortedMap.contains_iff.1 (contains_of_mem_edges he)
    exact ⟨page, hp, (mem_successors_iff_edge (hw _ _ hp) hp).2 ⟨e, he, rfl, rfl⟩⟩
  · obtain ⟨page, hp, hb⟩ := h
    exact (mem_successors_iff_edge (hw _ _ hp) hp).1 hb

/-! ## Orphans -/

theorem orphan_iff_not_reached {reached : Pages} :
    kindOf reached id page = .orphan ↔ reached.contains id = false := by
  rw [kindOf]
  cases reached.contains id with
  | false => simp
  | true => cases page.isEnding <;> by_cases hc : page.choices = [] <;> simp [hc]

theorem get?_classify_eq_orphan_iff {reached : Pages} :
    (pages.classify reached).get? id = some .orphan ↔
      pages.contains id = true ∧ reached.contains id = false := by
  rw [classify, SortedMap.get?_mapValues, Option.map_eq_some_iff]
  simp only [orphan_iff_not_reached, SortedMap.contains_iff, exists_and_right]

/-- The pages that can be reached are those to which a chain of moves leads, so they are the least set
that is closed under moves and holds the first page, and empty without it; the other pages are the
orphans. Where no choice is without words, the edges lead to the same pages. -/
theorem reachable_is_least_closed (pages : Pages) (root : PageId) :
    (∀ id, (pages.reachable root).contains id = true ↔ pages.Chained root id) ∧
    (pages.contains root = false → pages.reachable root = .empty) ∧
    (∀ set : PageId → Prop, (pages.contains root = true → set root) →
      (∀ a b, set a → pages.MovesTo a b → set b) →
        ∀ id, (pages.reachable root).contains id = true → set id) ∧
    (∀ id, (pages.classify (pages.reachable root)).get? id = some .orphan ↔
      pages.contains id = true ∧ ¬ pages.Chained root id) ∧
    ((∀ id page, pages.get? id = some page →
        ∀ c ∈ page.choices, Text.trim c.text.toList ≠ []) →
      ∀ id, (pages.reachable root).contains id = true ↔
        pages.contains root = true ∧ ReflTransGen pages.Drawn root id) := by
  refine ⟨fun id => contains_reachable_iff_chained, fun hr => ?_, fun set hroot hmove id hid => ?_,
    fun id => ?_, fun hw id => ?_⟩
  · refine SortedMap.isEmpty_iff.1 (eq_true_of_ne_false fun he => ?_)
    obtain ⟨id, hid⟩ := SortedMap.isEmpty_eq_false_iff.1 he
    cases hr.symm.trans (contains_reachable_iff.1 hid).1
  · obtain ⟨hr, hc⟩ := contains_reachable_iff_chained.1 hid
    induction hc with
    | refl => exact hroot hr
    | tail hab hbc ih =>
        exact hmove _ _ (ih (contains_reachable_iff_chained.2 ⟨hr, hab⟩)) hbc
  · rw [get?_classify_eq_orphan_iff, ← contains_reachable_iff_chained, Bool.not_eq_true]
  · rw [contains_reachable_iff, drawn_eq_leads hw]

/-- In a story whose first page only leads back to it, the edges reach that page and the other page is
an orphan. -/
theorem reachable_of_loop :
    let pages : Pages := .ofList [(.root, ⟨"A maze.", true, false, [⟨'a', "Back", some .root⟩]⟩),
      ({ number := 2, path := [.a] }, ⟨"A garden.", false, false, []⟩)]
    (∀ id page, pages.get? id = some page →
      ∀ c ∈ page.choices, Text.trim c.text.toList ≠ []) ∧
    (∀ id, pages.contains .root = true ∧ ReflTransGen pages.Drawn .root id ↔ id = .root) ∧
    (pages.classify (pages.reachable .root)).get? { number := 2, path := [.a] } = some .orphan := by
  intro pages
  have hw : ∀ id page, pages.get? id = some page →
      ∀ c ∈ page.choices, Text.trim c.text.toList ≠ [] := by
    intro id page hp
    have h : ∀ e ∈ pages.entries, ∀ c ∈ e.2.choices, Text.trim c.text.toList ≠ [] := by
      decide +kernel
    exact h (id, page) (SortedMap.get?_eq_some_iff.1 hp)
  have hr := reachable_is_least_closed pages .root
  have hroot : pages.get? .root =
      some ⟨"A maze.", true, false, [⟨'a', "Back", some .root⟩]⟩ := by decide +kernel
  have hmove : ∀ b, pages.MovesTo .root b → b = .root := by
    rintro b ⟨page, hp, -, -, h⟩
    cases hroot.symm.trans hp
    simpa [Choice.target?, eq_comm] using h
  have hreach : ∀ id, (pages.reachable .root).contains id = true ↔ id = .root := by
    intro id
    refine ⟨hr.2.2.1 (· = .root) (fun _ => rfl) (fun a b ha hb => hmove b (ha ▸ hb)) id, ?_⟩
    rintro rfl
    exact (hr.1 .root).2 ⟨by decide +kernel, .refl⟩
  refine ⟨hw, fun id => (hr.2.2.2.2 hw id).symm.trans (hreach id), (hr.2.2.2.1 _).2 ⟨?_, ?_⟩⟩
  · decide +kernel
  · rw [← hr.1, hreach]
    decide

end Pages
end Gamebook
