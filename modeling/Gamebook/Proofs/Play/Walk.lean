import Gamebook.Proofs.Play.Chain

/-!
# Walks through a story

A walk starts at the first page and takes choices and continuations. Each step from a page shown is
read off its record: it ends the story at an ending, takes one of the page's choices, or goes on to the
target of the last goto or else to the continuation.
-/

namespace Gamebook

/-- Where the last goto of the page shown leads, if the page has one. -/
def Play.gotoTarget? (p : Play) : Option PageId := p.moment.bind fun m => m.gotos.getLast?

theorem Play.output_eq_ended_iff {p : Play} : p.output = .ended ↔ p.page? = none := by
  rw [output, page?]
  cases p.moment <;> simp

theorem Play.output_eq_page_iff {p : Play} {v : View} :
    p.output = .page v ↔ ∃ m, p.moment = some m ∧ m.view = v := by
  unfold output
  cases p.moment <;> simp

namespace Stage

variable {s : Stage} {p q : Play}

/-- Whether an accepted choice or continuation leads from one play to another. -/
inductive Steps (s : Stage) (p q : Play) : Prop
  | choose {letter : Char} (h : s.choose p letter = .ok q)
  | goOn (h : s.goOn p = .ok q)

/-- The plays to which a start and then choices and continuations lead, where every goto that is
followed leads to a page that satisfies `may`. -/
inductive Walks (s : Stage) (may : PageId → Prop) : Play → Prop
  | start : Walks s may s.start
  | choose {p q : Play} {letter : Char} (h : Walks s may p) (hq : s.choose p letter = .ok q) :
      Walks s may q
  | goOn {p q : Play} (h : Walks s may p) (hq : s.goOn p = .ok q)
      (hm : ∀ t, p.gotoTarget? = some t → may t) : Walks s may q

theorem Walks.reaches {may : PageId → Prop} (h : s.Walks may p) : s.Reaches p := by
  induction h with
  | start => exact .move (m := .start) .fresh (by simp)
  | @choose p q letter _ hq ih =>
      have hm : (s.perform p (.choose letter)).1 = q := by simp only [perform, hq]
      exact hm ▸ .move ih (by simp)
  | @goOn p q _ hq _ ih =>
      have hm : (s.perform p .goOn).1 = q := by simp only [perform, hq]
      exact hm ▸ .move ih (by simp)

theorem Walks.shows {may : PageId → Prop} (h : s.Walks may p) {m : Moment}
    (hm : p.moment = some m) : s.Shows m p.vars :=
  (h.reaches.sound.of_moment hm).2

/-! ## Accepted moves -/

theorem choose_eq_ok {letter : Char} : s.choose p letter = .ok q ↔
    ∃ m o, p.moment = some m ∧
      m.view.offers.find? (fun o => o.letter == letter.toLower) = some o ∧
      s.navigate p o.target = q := by
  unfold choose
  cases hm : p.moment with
  | none => simp
  | some m =>
      cases ho : m.view.offers.find? fun o => o.letter == letter.toLower with
      | none => simp [ho]
      | some o => simp [ho]

theorem goOn_eq_ok : s.goOn p = .ok q ↔
    ∃ m, p.moment = some m ∧
      (m.view.isEnding = true ∧ p.leave = q ∨
        m.view.isEnding = false ∧ m.view.offers = [] ∧
          s.navigate p (m.gotos.getLast?.getD m.page.continuation) = q) := by
  unfold goOn
  cases hm : p.moment with
  | none => simp
  | some m =>
      cases he : m.view.isEnding with
      | true => simp [he]
      | false => by_cases ho : m.view.offers = [] <;> simp [he, ho]

theorem page?_leave (p : Play) : p.leave.page? = none := by
  rw [Play.page?, leave_moment]
  rfl

theorem page?_enter (p : Play) (id : PageId) :
    (s.enter p id).page? = if (s.pages.page? id).isSome then some id else none := by
  unfold enter
  cases s.pages.page? id <;> rfl

theorem page?_navigate (p : Play) (id : PageId) :
    (s.navigate p id).page? = if (s.pages.page? id).isSome then some id else none :=
  page?_enter p.leave id

theorem moment_start {page : Page} (hp : s.pages.page? .root = some page) :
    s.start.moment = some ⟨.root, s.initial, s.view .root (page.render s.config s.allowed s.initial),
      (page.render s.config s.allowed s.initial).gotos⟩ := by
  rw [start, enter, hp]
  rfl

theorem isEnded_iff : p.isEnded = true ↔ p.page? = none := by
  rw [Play.isEnded, Play.page?, Option.isNone_iff_eq_none, Option.map_eq_none_iff]

/-! ## What a page shown offers -/

variable {m : Moment} {vars : Variables} {page : Page}

theorem Shows.isEnding (h : s.Shows m vars) (hp : s.pages.page? m.page = some page) :
    m.view.isEnding = page.isEnding := by
  obtain ⟨q, hq, hv, -, -⟩ := h
  cases hq.symm.trans hp
  rw [hv]
  rfl

theorem Shows.offers (h : s.Shows m vars) (hp : s.pages.page? m.page = some page) :
    m.view.offers = if page.isEnding then [] else
      page.choices.filterMap fun c =>
        (c.target? m.page).map fun target => ⟨c.letter, c.text, target⟩ := by
  obtain ⟨q, hq, hv, -, -⟩ := h
  cases hq.symm.trans hp
  rw [hv]
  rfl

theorem Shows.offers_eq_nil_iff (h : s.Shows m vars) (hp : s.pages.page? m.page = some page)
    (he : page.isEnding = false) :
    m.view.offers = [] ↔ ∀ c ∈ page.choices, c.target? m.page = none := by
  rw [h.offers hp, he, if_neg Bool.false_ne_true, List.filterMap_eq_nil_iff]
  simp only [Option.map_eq_none_iff]

/-- A choice taken is one of the page's, which is no ending. -/
theorem Shows.of_choose (h : s.Shows m vars) (hm : p.moment = some m)
    (hp : s.pages.page? m.page = some page) {letter : Char} (hq : s.choose p letter = .ok q) :
    page.isEnding = false ∧ ∃ c ∈ page.choices, ∃ target, c.target? m.page = some target ∧
      s.navigate p target = q := by
  obtain ⟨n, o, hn, ho, hq⟩ := choose_eq_ok.1 hq
  cases hn.symm.trans hm
  have hmem := List.mem_of_find?_eq_some ho
  rw [h.offers hp] at hmem
  split at hmem
  · cases hmem
  · next he =>
      obtain ⟨c, hc, hco⟩ := List.mem_filterMap.1 hmem
      obtain ⟨target, ht, rfl⟩ := Option.map_eq_some_iff.1 hco
      exact ⟨Bool.eq_false_iff.2 he, c, hc, target, ht, hq⟩

/-- Going on ends the story at an ending, and else leads on from a page none of whose choices leads
anywhere. -/
theorem Shows.of_goOn (h : s.Shows m vars) (hm : p.moment = some m)
    (hp : s.pages.page? m.page = some page) (hq : s.goOn p = .ok q) :
    page.isEnding = true ∧ p.leave = q ∨
      page.isEnding = false ∧ (∀ c ∈ page.choices, c.target? m.page = none) ∧
        s.navigate p (p.gotoTarget?.getD m.page.continuation) = q := by
  obtain ⟨n, hn, hq⟩ := goOn_eq_ok.1 hq
  cases hn.symm.trans hm
  rw [h.isEnding hp] at hq
  refine hq.imp id fun ⟨he, ho, hq⟩ => ⟨he, (h.offers_eq_nil_iff hp he).1 ho, ?_⟩
  rw [Play.gotoTarget?, hm]
  exact hq

end Stage
end Gamebook
