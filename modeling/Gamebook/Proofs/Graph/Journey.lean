import Gamebook.Proofs.Graph.Closure
import Gamebook.Proofs.Play.Shown
import Gamebook.Proofs.Play.Walk
import Gamebook.Proofs.Story.Loading

/-!
# The graph and the walks

A step of a walk through a loaded story leads to a successor of the page shown, unless it follows a
goto, and every successor can be stepped to where no goto is in the way. So without gotos the pages
shown on walks are those that the graph reaches.
-/

namespace Gamebook

open Relation

/-- A choice that stands under a letter leads somewhere. -/
theorem Choice.exists_target {c : Choice} (h : ∃ l : Letter, c.letter = l.toChar) (id : PageId) :
    ∃ target, c.target? id = some target := by
  obtain ⟨l, hl⟩ := h
  cases hg : c.goto with
  | some target => exact ⟨target, by rw [target?, hg]; rfl⟩
  | none =>
      refine ⟨id.child l, ?_⟩
      rw [target?, hg, hl]
      cases l <;> rfl

namespace Story

variable {s : Story} {allowed : Html.AllowList} {initial : Variables} {p q : Play} {m : Moment}
  {vars : Variables} {page : Page} {b : PageId}

/-! ## Steps -/

theorem page?_navigate_stage {id : PageId} :
    ((s.stage allowed initial).navigate p id).page? = some b ↔
      s.pages.contains id = true ∧ id = b := by
  rw [Stage.page?_navigate, SortedMap.contains_eq_isSome]
  change (if (s.pages.get? id).isSome then some id else none) = some b ↔ _
  cases (s.pages.get? id).isSome <;> simp

theorem mem_successors_of_choose (hm : p.moment = some m)
    (hsh : (s.stage allowed initial).Shows m vars) (hp : s.pages.get? m.page = some page)
    {letter : Char} (hq : (s.stage allowed initial).choose p letter = .ok q)
    (hb : q.page? = some b) : b ∈ s.pages.successors m.page page := by
  obtain ⟨he, c, hc, target, ht, hq⟩ := hsh.of_choose hm hp hq
  rw [← hq, page?_navigate_stage] at hb
  obtain ⟨hb, rfl⟩ := hb
  exact Pages.mem_successors_iff.2 ⟨hb, he, .inl ⟨c, hc, ht⟩⟩

/-- Going on leads to a successor of the page shown unless it follows a goto. -/
theorem Loaded.mem_successors_of_goOn (h : s.Loaded) (hm : p.moment = some m)
    (hsh : (s.stage allowed initial).Shows m vars) (hp : s.pages.get? m.page = some page)
    (hq : (s.stage allowed initial).goOn p = .ok q) (hb : q.page? = some b) :
    b ∈ s.pages.successors m.page page ∨ p.gotoTarget? = some b := by
  rcases hsh.of_goOn hm hp hq with ⟨-, hq⟩ | ⟨he, hc, hq⟩
  · rw [← hq, Stage.page?_leave] at hb
    cases hb
  · rw [← hq, page?_navigate_stage] at hb
    cases hg : p.gotoTarget? with
    | some t =>
        rw [hg, Option.getD_some] at hb
        exact .inr (congrArg some hb.2)
    | none =>
        rw [hg, Option.getD_none] at hb
        have hn : page.choices = [] := by
          refine List.eq_nil_iff_forall_not_mem.2 fun c hm => ?_
          obtain ⟨t, ht⟩ := Choice.exists_target ((h.pages _ _ hp).letters c hm) m.page
          cases ht.symm.trans (hc c hm)
        obtain ⟨hb, rfl⟩ := hb
        exact .inl (Pages.mem_successors_iff.2 ⟨hb, he, .inr ⟨hn, rfl⟩⟩)

theorem Loaded.find?_offer (h : s.Loaded) (hsh : (s.stage allowed initial).Shows m vars)
    (hp : s.pages.get? m.page = some page) (he : page.isEnding = false) {c : Choice}
    (hc : c ∈ page.choices) {target : PageId} (ht : c.target? m.page = some target) :
    m.view.offers.find? (fun o => o.letter == c.letter.toLower) =
      some ⟨c.letter, c.text, target⟩ := by
  have hl : c.letter.toLower = c.letter := by
    obtain ⟨l, hl⟩ := (h.pages _ _ hp).letters c hc
    rw [hl, Letter.toLower_toChar]
  rw [hsh.offers hp, he, if_neg Bool.false_ne_true, hl]
  have hd := (h.pages _ _ hp).distinct
  generalize page.choices = cs at hc hd
  induction cs with
  | nil => cases hc
  | cons d cs ih =>
      obtain ⟨hn, hd⟩ := List.nodup_cons.1 hd
      rcases List.mem_cons.1 hc with rfl | hc
      · rw [List.filterMap_cons, ht]
        simp
      · have hne : d.letter ≠ c.letter := fun he => hn (List.mem_map.2 ⟨c, hc, he.symm⟩)
        rw [List.filterMap_cons]
        cases hdt : d.target? m.page with
        | none => exact ih hc hd
        | some t => simpa [hne] using ih hc hd

/-- Every successor can be stepped to where no goto is in the way. -/
theorem Loaded.steps_of_mem_successors (h : s.Loaded) (hm : p.moment = some m)
    (hsh : (s.stage allowed initial).Shows m vars) (hp : s.pages.get? m.page = some page)
    (hg : p.gotoTarget? = none) (hb : b ∈ s.pages.successors m.page page) :
    ∃ q, (s.stage allowed initial).Steps p q ∧ q.page? = some b := by
  obtain ⟨hb, he, ⟨c, hc, ht⟩ | ⟨hc, rfl⟩⟩ := Pages.mem_successors_iff.1 hb
  · have hf := h.find?_offer hsh hp he hc ht
    exact ⟨_, .choose (Stage.choose_eq_ok.2 ⟨m, _, hm, hf, rfl⟩), page?_navigate_stage.2 ⟨hb, rfl⟩⟩
  · have ho : m.view.offers = [] := (hsh.offers_eq_nil_iff hp he).2 (by simp [hc])
    have hl : m.gotos.getLast? = none := by rwa [Play.gotoTarget?, hm] at hg
    refine ⟨_, .goOn (Stage.goOn_eq_ok.2 ⟨m, hm, .inr ⟨(hsh.isEnding hp).trans he, ho, rfl⟩⟩), ?_⟩
    rw [hl, Option.getD_none]
    exact page?_navigate_stage.2 ⟨hb, rfl⟩

/-! ## Walks -/

/-- Going on from a first page that offers nothing leads to the target of its last goto, or to its
continuation. -/
theorem goOn_start (t : PageId) (hp : s.pages.get? .root = some page) (he : page.isEnding = false)
    (hc : page.choices.filterMap (·.target? .root) = [])
    (ht : (Directive.gotos (page.resolvedProse s.config initial)).getLast?.getD
      PageId.root.continuation = t) :
    (s.stage allowed initial).goOn (s.stage allowed initial).start =
      .ok ((s.stage allowed initial).navigate (s.stage allowed initial).start t) := by
  have hm := Stage.moment_start (s := s.stage allowed initial) hp
  have hw : (s.stage allowed initial).Walks (fun _ => True) (s.stage allowed initial).start := .start
  refine Stage.goOn_eq_ok.2 ⟨_, hm, .inr ⟨he, ?_, ?_⟩⟩
  · exact ((hw.shows hm).offers_eq_nil_iff hp he).2 (List.filterMap_eq_nil_iff.1 hc)
  · rw [← ht]
    rfl

theorem get?_of_walks {may : PageId → Prop} (hw : (s.stage allowed initial).Walks may p)
    (hm : p.moment = some m) : ∃ page, s.pages.get? m.page = some page := by
  obtain ⟨page, hp, -⟩ := hw.shows hm
  exact ⟨page, hp⟩

theorem page?_start {id : PageId} :
    (s.stage allowed initial).start.page? = some id ↔ s.pages.contains .root = true ∧ .root = id := by
  rw [Stage.start, Stage.page?_enter, SortedMap.contains_eq_isSome]
  change (if (s.pages.get? .root).isSome then some PageId.root else none) = some id ↔ _
  cases (s.pages.get? .root).isSome <;> simp

theorem reachable_of_mem_successors {a : PageId} (ha : (s.pages.reachable .root).contains a = true)
    (hp : s.pages.get? a = some page) (hb : b ∈ s.pages.successors a page) :
    (s.pages.reachable .root).contains b = true := by
  obtain ⟨hr, hl⟩ := Pages.contains_reachable_iff.1 ha
  exact Pages.contains_reachable_iff.2 ⟨hr, hl.tail ⟨page, hp, hb⟩⟩

/-- A walk whose gotos lead to pages that the graph reaches shows no others. -/
theorem Loaded.reachable_of_walks (h : s.Loaded) {may : PageId → Prop}
    (hmay : ∀ t, may t → s.pages.contains t = true → (s.pages.reachable .root).contains t = true)
    (hw : (s.stage allowed initial).Walks may p) (hb : p.page? = some b) :
    (s.pages.reachable .root).contains b = true := by
  induction hw generalizing b with
  | start =>
      obtain ⟨hr, rfl⟩ := page?_start.1 hb
      exact Pages.contains_reachable_iff.2 ⟨hr, .refl⟩
  | @choose p q letter hw hq ih =>
      obtain ⟨m, o, hm, -⟩ := Stage.choose_eq_ok.1 hq
      obtain ⟨page, hp⟩ := get?_of_walks hw hm
      have ha := ih (b := m.page) (by rw [Play.page?, hm]; rfl)
      exact reachable_of_mem_successors ha hp
        (mem_successors_of_choose hm (hw.shows hm) hp hq hb)
  | @goOn p q hw hq hg ih =>
      obtain ⟨m, hm, -⟩ := Stage.goOn_eq_ok.1 hq
      obtain ⟨page, hp⟩ := get?_of_walks hw hm
      have ha := ih (b := m.page) (by rw [Play.page?, hm]; rfl)
      rcases h.mem_successors_of_goOn hm (hw.shows hm) hp hq hb with hs | ht
      · exact reachable_of_mem_successors ha hp hs
      · obtain ⟨n, hn, rfl⟩ := Option.map_eq_some_iff.1 hb
        obtain ⟨r, hr⟩ := get?_of_walks (.goOn hw hq hg) hn
        exact hmay _ (hg _ ht) (SortedMap.contains_iff.2 ⟨r, hr⟩)

/-- Whether no page of a story has gotos when it is rendered, whatever the variables. -/
def GotoFree (s : Story) : Prop :=
  ∀ id page vars, s.pages.get? id = some page → (page.render s.config .story vars).gotos = []

/-- No page has gotos whose prose has no goto tokens, and no loose braces that could make one. -/
theorem gotoFree_of_apart (h : ∀ e ∈ s.pages.entries, e.2.prose.Apart ∧
    ∀ i ∈ Piece.insides (Piece.ofText e.2.prose), Directive.goto? i = none) : s.GotoFree := by
  intro id page vars hp
  obtain ⟨ha, hn⟩ := h (id, page) (SortedMap.get?_eq_some_iff.1 hp)
  exact Page.gotos_resolvedProse ha (Find.gather_eq_nil_iff.2 (by simpa using hn)) s.config vars

theorem GotoFree.gotoTarget? (hg : s.GotoFree) (hm : p.moment = some m)
    (hsh : (s.stage allowed initial).Shows m vars) : p.gotoTarget? = none := by
  obtain ⟨page, hp, -, hgotos, -⟩ := hsh
  have hn : m.gotos = [] := hgotos.trans (hg m.page page m.before hp)
  rw [Play.gotoTarget?, hm, Option.bind_some, hn]
  rfl

/-- Where no page has gotos, no walk follows one. -/
theorem GotoFree.walks (hg : s.GotoFree) {may : PageId → Prop}
    (hw : (s.stage allowed initial).Walks may p) :
    (s.stage allowed initial).Walks (fun _ => False) p := by
  induction hw with
  | start => exact .start
  | choose _ hq ih => exact .choose ih hq
  | goOn hw hq _ ih =>
      obtain ⟨m, hm, -⟩ := Stage.goOn_eq_ok.1 hq
      exact .goOn ih hq fun t ht => nomatch (hg.gotoTarget? hm (hw.shows hm)).symm.trans ht

/-- Where no goto is in the way, every page that the graph reaches is shown on a walk. -/
theorem Loaded.walks_of_reachable (h : s.Loaded) (hg : s.GotoFree)
    (hb : (s.pages.reachable .root).contains b = true) :
    ∃ p, (s.stage allowed initial).Walks (fun _ => True) p ∧ p.page? = some b := by
  obtain ⟨hr, hl⟩ := Pages.contains_reachable_iff.1 hb
  clear hb
  induction hl with
  | refl => exact ⟨_, .start, page?_start.2 ⟨hr, rfl⟩⟩
  | tail _ hab ih =>
      obtain ⟨p, hw, ha⟩ := ih
      obtain ⟨page, hp, hs⟩ := hab
      obtain ⟨m, hm, rfl⟩ := Option.map_eq_some_iff.1 ha
      have hsh := hw.shows hm
      obtain ⟨q, hq, hb⟩ := h.steps_of_mem_successors hm hsh hp (hg.gotoTarget? hm hsh) hs
      refine ⟨q, ?_, hb⟩
      cases hq with
      | choose hq => exact .choose hw hq
      | goOn hq => exact .goOn hw hq fun _ _ => trivial

/-- Without gotos the pages shown on walks are those that the graph reaches, and one step from a page
shown leads to its successors, which are the targets of its edges unless a choice has no words. -/
theorem walks_iff_reachable_of_gotoFree {files : SortedMap String String} {assets : List String}
    (h : ofFiles files assets = .ok s) (hg : s.GotoFree) (allowed : Html.AllowList)
    (initial : Variables) :
    (∀ id, (∃ p, (s.stage allowed initial).Walks (fun _ => True) p ∧ p.page? = some id) ↔
      (s.pages.reachable .root).contains id = true) ∧
    (s.pages.contains .root = false →
      (∀ p, ((s.stage allowed initial).perform p .start).2 = some .noRoot) ∧
        ∀ id, (s.pages.reachable .root).contains id = false) ∧
    ∀ p id page b, (s.stage allowed initial).Walks (fun _ => True) p → p.page? = some id →
      s.pages.get? id = some page → s.pages.contains b = true →
      ((∃ q, (s.stage allowed initial).Steps p q ∧ q.page? = some b) ↔
        b ∈ s.pages.successors id page) ∧
      ((∀ c ∈ page.choices, Text.trim c.text.toList ≠ []) →
        (b ∈ s.pages.successors id page ↔
          ∃ e ∈ s.pages.edges, e.source = id ∧ e.target = b)) := by
  have hl := loaded_of_ofFiles h
  refine ⟨fun id => ⟨?_, hl.walks_of_reachable hg⟩, fun hr => ⟨fun p => ?_, fun id => ?_⟩, ?_⟩
  · rintro ⟨p, hw, hp⟩
    exact hl.reachable_of_walks (fun _ ht => ht.elim) (hg.walks hw) hp
  · have he : (s.stage allowed initial).start.isEnded = true := by
      rw [Stage.isEnded_iff, Option.eq_none_iff_forall_ne_some]
      intro id hid
      cases hr.symm.trans (page?_start.1 hid).1
    rw [Stage.perform, he, if_pos rfl]
  · rw [Bool.eq_false_iff]
    intro hc
    cases hr.symm.trans (Pages.contains_reachable_iff.1 hc).1
  · intro p id page b hw hid hp hb
    obtain ⟨m, hm, rfl⟩ := Option.map_eq_some_iff.1 hid
    have hsh := hw.shows hm
    have hn := hg.gotoTarget? hm hsh
    refine ⟨⟨?_, hl.steps_of_mem_successors hm hsh hp hn⟩,
      fun hc => Pages.mem_successors_iff_edge hc hp⟩
    rintro ⟨q, hs, hq⟩
    cases hs with
    | choose hs => exact mem_successors_of_choose hm hsh hp hs hq
    | goOn hs =>
        rcases hl.mem_successors_of_goOn hm hsh hp hs hq with hmem | ht
        · exact hmem
        · cases hn.symm.trans ht

/-- A hall behind a gate is shown on a walk, since the graph reaches it. -/
theorem walks_to_hall :
    ∃ s, ofFiles (.ofList [("1.txt", "The gate.\x7bsfx:wind.wav\x7d\na) In\nb) [1] Wait"),
        ("2a.txt", "A hall.")]) [] = .ok s ∧ s.GotoFree ∧
      ∃ p, (s.stage .story .empty).Walks (fun _ => True) p ∧
        p.page? = some { number := 2, path := [.a] } := by
  let gate : Page := .ofSource "The gate.\x7bsfx:wind.wav\x7d\na) In\nb) [1] Wait"
  let hall : PageId := { number := 2, path := [.a] }
  let s : Story := ⟨.ofList [(.root, gate), (hall, .ofSource "A hall.")], .empty, none⟩
  have hs : ofFiles (.ofList [("1.txt", "The gate.\x7bsfx:wind.wav\x7d\na) In\nb) [1] Wait"),
      ("2a.txt", "A hall.")]) [] = .ok s := ok_of_toOption (by decide +kernel)
  have hg : s.GotoFree := gotoFree_of_apart (by decide +kernel)
  have hr : (s.pages.reachable .root).contains hall = true := by
    have hl : s.pages.Leads .root hall := ⟨gate, by decide +kernel, by decide +kernel⟩
    exact Pages.contains_reachable_iff.2 ⟨by decide +kernel, .single hl⟩
  exact ⟨s, hs, hg, ((walks_iff_reachable_of_gotoFree hs hg .story .empty).1 hall).2 hr⟩

end Story
end Gamebook
