import Gamebook.Graph.Reach
import Gamebook.Proofs.SortedMap
import Mathlib.Logic.Relation

/-!
# What the search for pages finds

The search for pages finds those to which successors lead from where it starts, and no others: what it
takes out is closed under successors, and each page that it takes out is led to from a page that was
still to do.
-/

namespace Gamebook

namespace Pages

open Relation

variable {pages : Pages}

/-- Whether a page is there and has another one among its successors. -/
def Leads (pages : Pages) (a b : PageId) : Prop :=
  ∃ page, pages.get? a = some page ∧ b ∈ pages.successors a page

theorem contains_of_mem_successors {id b : PageId} {page : Page}
    (h : b ∈ pages.successors id page) : pages.contains b = true := by
  rw [successors] at h
  split at h
  · cases h
  · split at h
    · exact (List.mem_filter.1 h).2
    · exact (List.mem_filter.1 h).2

/-! ## The search -/

theorem unvisited_of_none {todo : List PageId} {left : Pages} {t : PageId}
    (h : left.get? t = none) : pages.unvisited (t :: todo) left = pages.unvisited todo left := by
  rw [unvisited]
  split
  · rfl
  · next hp => cases hp.symm.trans h

theorem unvisited_of_some {todo : List PageId} {left : Pages} {t : PageId} {page : Page}
    (h : left.get? t = some page) :
    pages.unvisited (t :: todo) left =
      pages.unvisited (pages.successors t page ++ todo) (left.erase t) := by
  rw [unvisited]
  split
  · next hn => cases hn.symm.trans h
  · next hp =>
      cases hp.symm.trans h
      rfl

theorem get?_of_get?_erase {left : Pages} {t id : PageId} {page : Page}
    (h : (left.erase t).get? id = some page) : left.get? id = some page ∧ id ≠ t := by
  rw [SortedMap.get?_erase] at h
  split at h
  · cases h
  · next hne => exact ⟨h, fun he => hne (he ▸ Std.ReflCmp.compare_self)⟩

theorem get?_erase_of_ne {left : Pages} {t id : PageId} (h : id ≠ t) :
    (left.erase t).get? id = left.get? id := by
  rw [SortedMap.get?_erase, if_neg fun hc => h (Std.LawfulEqCmp.eq_of_compare hc).symm]

theorem get?_of_unvisited {todo : List PageId} {left : Pages} {id : PageId} {page : Page}
    (h : (pages.unvisited todo left).get? id = some page) : left.get? id = some page := by
  induction todo, left using unvisited.induct pages with
  | case1 left => rwa [unvisited] at h
  | case2 left t todo ht ih => exact ih (unvisited_of_none ht ▸ h)
  | case3 left t todo p ht ih => exact (get?_of_get?_erase (ih (unvisited_of_some ht ▸ h))).1

theorem get?_unvisited_eq_none {todo : List PageId} {left : Pages} {id : PageId}
    (h : left.get? id = none) : (pages.unvisited todo left).get? id = none := by
  cases hg : (pages.unvisited todo left).get? id with
  | none => rfl
  | some page => cases h.symm.trans (get?_of_unvisited hg)

/-- The search takes out all that is to do and, with a page, all its successors. -/
theorem unvisited_closed {todo : List PageId} {left : Pages} :
    (∀ t ∈ todo, (pages.unvisited todo left).get? t = none) ∧
      ∀ id page, left.get? id = some page → (pages.unvisited todo left).get? id = none →
        ∀ b ∈ pages.successors id page, (pages.unvisited todo left).get? b = none := by
  induction todo, left using unvisited.induct pages with
  | case1 left =>
      refine ⟨nofun, fun id page hp hn => ?_⟩
      rw [unvisited, hp] at hn
      cases hn
  | case2 left t todo ht ih =>
      rw [unvisited_of_none ht]
      exact ⟨List.forall_mem_cons.2 ⟨get?_unvisited_eq_none ht, ih.1⟩, ih.2⟩
  | case3 left t todo p ht ih =>
      rw [unvisited_of_some ht]
      obtain ⟨htodo, hclosed⟩ := ih
      have he : (left.erase t).get? t = none := by
        rw [SortedMap.get?_erase, if_pos Std.ReflCmp.compare_self]
      refine ⟨List.forall_mem_cons.2 ⟨get?_unvisited_eq_none he, fun u hu =>
        htodo u (List.mem_append_right _ hu)⟩, fun id page hp hn b hb => ?_⟩
      by_cases hid : id = t
      · subst hid
        cases hp.symm.trans ht
        exact htodo b (List.mem_append_left _ hb)
      · exact hclosed id page ((get?_erase_of_ne hid).trans hp) hn b hb

/-- Each page that the search takes out is led to from one that was to do. -/
theorem leads_of_unvisited {todo : List PageId} {left : Pages}
    (hl : ∀ id page, left.get? id = some page → pages.get? id = some page) {id : PageId}
    {page : Page} (hp : left.get? id = some page)
    (hn : (pages.unvisited todo left).get? id = none) :
    ∃ t ∈ todo, ReflTransGen pages.Leads t id := by
  induction todo, left using unvisited.induct pages with
  | case1 left =>
      rw [unvisited, hp] at hn
      cases hn
  | case2 left t todo ht ih =>
      obtain ⟨u, hu, hr⟩ := ih hl hp (unvisited_of_none ht ▸ hn)
      exact ⟨u, List.mem_cons_of_mem _ hu, hr⟩
  | case3 left t todo p ht ih =>
      by_cases hid : id = t
      · exact ⟨t, List.mem_cons_self .., hid ▸ .refl⟩
      · obtain ⟨u, hu, hr⟩ := ih (fun i q hq => hl i q (get?_of_get?_erase hq).1)
          ((get?_erase_of_ne hid).trans hp) (unvisited_of_some ht ▸ hn)
        rcases List.mem_append.1 hu with hu | hu
        · exact ⟨t, List.mem_cons_self .., .head ⟨p, hl t p ht, hu⟩ hr⟩
        · exact ⟨u, List.mem_cons_of_mem _ hu, hr⟩

/-! ## The pages that can be reached -/

theorem contains_of_leads {root id : PageId} (h : ReflTransGen pages.Leads root id)
    (hr : pages.contains root = true) : pages.contains id = true := by
  cases h with
  | refl => exact hr
  | tail _ hb =>
      obtain ⟨page, -, hm⟩ := hb
      exact contains_of_mem_successors hm

theorem contains_root_of_leads {root id : PageId} (h : ReflTransGen pages.Leads root id)
    (hr : pages.contains id = true) : pages.contains root = true := by
  cases h.cases_head with
  | inl he => exact he ▸ hr
  | inr hb =>
      obtain ⟨_, ⟨page, hp, -⟩, -⟩ := hb
      exact SortedMap.contains_iff.2 ⟨page, hp⟩

/-- The pages that can be reached are those to which successors lead from the first one, if there is
a first one. -/
theorem contains_reachable_iff {root id : PageId} :
    (pages.reachable root).contains id = true ↔
      pages.contains root = true ∧ ReflTransGen pages.Leads root id := by
  have hc : (pages.reachable root).contains id = true ↔
      ∃ page, pages.get? id = some page ∧ (pages.unvisited [root] pages).get? id = none := by
    rw [reachable, SortedMap.contains_filter_iff]
    simp only [Bool.not_eq_true', SortedMap.contains_eq_false_iff]
  rw [hc]
  constructor
  · rintro ⟨page, hp, hn⟩
    obtain ⟨t, ht, hr⟩ := leads_of_unvisited (fun _ _ h => h) hp hn
    rw [List.mem_singleton.1 ht] at hr
    exact ⟨contains_root_of_leads hr (SortedMap.contains_iff.2 ⟨page, hp⟩), hr⟩
  · rintro ⟨hroot, hr⟩
    obtain ⟨page, hp⟩ := SortedMap.contains_iff.1 (contains_of_leads hr hroot)
    obtain ⟨htodo, hclosed⟩ := @unvisited_closed pages [root] pages
    refine ⟨page, hp, ?_⟩
    clear hp hc
    -- The pages taken out are closed under successors, and the first one is among them.
    induction hr with
    | refl => exact htodo root (List.mem_singleton_self _)
    | tail _ hb ih =>
        obtain ⟨q, hq, hm⟩ := hb
        exact hclosed _ q hq ih _ hm

end Pages
end Gamebook
