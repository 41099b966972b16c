import Gamebook.Proofs.Play.InPlace
import Gamebook.Proofs.Play.Restore

/-!
# What a play offers is what it accepts

A reader sees whether the page shown is an ending, offers choices, or can be left by going on. The
moves that the play accepts are those, and a move that it refuses changes nothing.
-/

namespace Gamebook

/-- How a page that is seen is left: it is an ending, or offers choices, or is gone on from. -/
inductive View.Way (v : View) : Prop
  | ending (he : v.isEnding = true) (ho : v.offers = []) (hc : v.canContinue = false)
  | choice (he : v.isEnding = false) (ho : v.offers ≠ []) (hc : v.canContinue = false)
  | goOn (he : v.isEnding = false) (ho : v.offers = []) (hc : v.canContinue = true)

namespace Stage

/-- Whether a move is not refused. -/
def Accepts (s : Stage) (p : Play) (m : Move) : Prop := (s.perform p m).2 = none

/-- What a reader may rely on: the page shown is left in one way, the moves that are accepted are
those that are seen, none that leave a page once the story has ended, and a move that is refused
leaves the play as it was, also where the play is changed in place. -/
structure OffersAccepted (s : Stage) (p : Play) : Prop where
  way : ∀ v, p.output = .page v → v.Way
  choose : ∀ letter, s.Accepts p (.choose letter) ↔
    ∃ v, p.output = .page v ∧ ∃ o ∈ v.offers, o.letter = letter.toLower
  goOn : s.Accepts p .goOn ↔ ∃ v, p.output = .page v ∧ v.offers = []
  ended : p.output = .ended →
    (∀ letter, s.perform p (.choose letter) = (p, some .endedAtChoice)) ∧
      s.perform p .goOn = (p, some .endedAtContinue)
  kept : ∀ m ≠ Move.start, ¬ s.Accepts p m → (s.perform p m).1 = p
  keptInPlace : ∀ m ≠ Move.start, ∀ e q, (InPlace.move s m).run p = .error e q → q = p
  keptUnsaved : ∀ e q, InPlace.snapshot.run p = .error e q → q = p

variable {s : Stage} {p : Play}

/-! ## What is seen -/

theorem way_view (s : Stage) (id : PageId) (r : Rendering) : (s.view id r).Way := by
  have hc : (s.view id r).canContinue = (!r.isEnding && (s.view id r).offers.isEmpty) := rfl
  cases he : r.isEnding with
  | true => exact .ending he (by simp [view, he]) (by rw [hc, he]; rfl)
  | false =>
      by_cases ho : (s.view id r).offers = []
      · exact .goOn he ho (by rw [hc, he, ho]; rfl)
      · exact .choice he ho (by rw [hc, he, List.isEmpty_eq_false_iff.2 ho]; rfl)

theorem Shows.way {m : Moment} {vars : Variables} (h : s.Shows m vars) : m.view.Way := by
  obtain ⟨page, -, hv, -⟩ := h
  exact hv ▸ way_view s m.page _

theorem Renders.way (h : s.Renders p) {v : View} (hv : p.output = .page v) : v.Way := by
  obtain ⟨m, hm, rfl⟩ := Play.output_eq_page_iff.1 hv
  exact (h m hm).way

/-! ## What is accepted -/

theorem accepts_choose {letter : Char} :
    s.Accepts p (.choose letter) ↔ ∃ q, s.choose p letter = .ok q := by
  simp only [Accepts, perform]
  cases s.choose p letter <;> simp

theorem accepts_goOn : s.Accepts p .goOn ↔ ∃ q, s.goOn p = .ok q := by
  simp only [Accepts, perform]
  cases s.goOn p <;> simp

theorem accepts_choose_iff {letter : Char} : s.Accepts p (.choose letter) ↔
    ∃ v, p.output = .page v ∧ ∃ o ∈ v.offers, o.letter = letter.toLower := by
  rw [accepts_choose]
  constructor
  · rintro ⟨q, hq⟩
    obtain ⟨m, o, hm, ho, -⟩ := choose_eq_ok.1 hq
    have hl := List.find?_some ho
    exact ⟨m.view, Play.output_eq_page_iff.2 ⟨m, hm, rfl⟩, o, List.mem_of_find?_eq_some ho,
      beq_iff_eq.1 hl⟩
  · rintro ⟨v, hv, o, ho, hl⟩
    obtain ⟨m, hm, rfl⟩ := Play.output_eq_page_iff.1 hv
    have hf : (m.view.offers.find? fun o => o.letter == letter.toLower).isSome = true :=
      List.find?_isSome.2 ⟨o, ho, beq_iff_eq.2 hl⟩
    obtain ⟨o', ho'⟩ := Option.isSome_iff_exists.1 hf
    exact ⟨_, choose_eq_ok.2 ⟨m, o', hm, ho', rfl⟩⟩

theorem Renders.accepts_goOn_iff (h : s.Renders p) :
    s.Accepts p .goOn ↔ ∃ v, p.output = .page v ∧ v.offers = [] := by
  rw [accepts_goOn]
  constructor
  · rintro ⟨q, hq⟩
    obtain ⟨m, hm, hq⟩ := goOn_eq_ok.1 hq
    refine ⟨m.view, Play.output_eq_page_iff.2 ⟨m, hm, rfl⟩, ?_⟩
    rcases hq with ⟨he, -⟩ | ⟨-, ho, -⟩
    -- An ending is accepted without a look at its choices: it shows none.
    · cases (h m hm).way with
      | ending _ ho => exact ho
      | choice hn => cases hn.symm.trans he
      | goOn hn => cases hn.symm.trans he
    · exact ho
  · rintro ⟨v, hv, ho⟩
    obtain ⟨m, hm, rfl⟩ := Play.output_eq_page_iff.1 hv
    cases he : m.view.isEnding with
    | true => exact ⟨_, goOn_eq_ok.2 ⟨m, hm, .inl ⟨he, rfl⟩⟩⟩
    | false => exact ⟨_, goOn_eq_ok.2 ⟨m, hm, .inr ⟨he, ho, rfl⟩⟩⟩

/-! ## What is refused -/

theorem perform_of_ended (h : p.output = .ended) :
    (∀ letter, s.perform p (.choose letter) = (p, some .endedAtChoice)) ∧
      s.perform p .goOn = (p, some .endedAtContinue) := by
  have hm : p.moment = none := Option.map_eq_none_iff.1 (Play.output_eq_ended_iff.1 h)
  simp only [perform, choose, goOn, hm, implies_true, and_self]

/-- A move other than a start is accepted, or is refused and leaves the play as it was. -/
theorem perform_outcome {m : Move} (hm : m ≠ .start) :
    (∃ q, s.perform p m = (q, none)) ∨ ∃ e, s.perform p m = (p, some e) := by
  cases m with
  | start => exact absurd rfl hm
  | choose | goOn | jump | back | resume =>
      simp only [perform]
      split
      · exact .inl ⟨_, rfl⟩
      · exact .inr ⟨_, rfl⟩

theorem perform_of_refused {m : Move} (hm : m ≠ .start) (h : ¬ s.Accepts p m) :
    (s.perform p m).1 = p := by
  rcases perform_outcome hm with ⟨q, hq⟩ | ⟨e, he⟩
  · exact absurd (congrArg Prod.snd hq) h
  · rw [he]

end Stage

namespace InPlace

variable {s : Stage} {p q : Play} {e : Refusal}

theorem eq_of_refused {m : Move} (hm : m ≠ .start) (h : (move s m).run p = .error e q) : q = p := by
  rw [run_move] at h
  rcases Stage.perform_outcome (s := s) (p := p) hm with ⟨next, hp⟩ | ⟨e', hp⟩
  · rw [hp] at h
    cases h
  · rw [hp] at h
    cases h
    rfl

theorem eq_of_unsaved (h : snapshot.run p = .error e q) : q = p := by
  rw [run_snapshot] at h
  cases hs : p.snapshot with
  | ok saved =>
      rw [hs] at h
      cases h
  | error e' =>
      rw [hs] at h
      cases h
      rfl

end InPlace

namespace Stage

variable {s : Stage} {p : Play}

/-- In every play that moves lead to, the moves that are offered are the moves that are accepted,
and what is refused changes nothing. -/
theorem offersAccepted_of_arises (h : s.Arises p) : s.OffersAccepted p where
  way _ hv := h.renders.way hv
  choose _ := accepts_choose_iff
  goOn := h.renders.accepts_goOn_iff
  ended hp := perform_of_ended hp
  kept _ hm ha := perform_of_refused hm ha
  keptInPlace _ hm _ _ hr := InPlace.eq_of_refused hm hr
  keptUnsaved _ _ hr := InPlace.eq_of_unsaved hr

/-- An ending that still has a choice: the choice is not offered and is refused, and going on is
accepted and ends the story. -/
theorem offersAccepted_at_ending :
    let s : Stage := { pages := ⟨fun id =>
      if id = .root then some ⟨"The end.", true, true, [⟨'a', "Wait", none⟩]⟩ else none⟩ }
    let p := (s.perform s.start .goOn).1
    ¬ s.Accepts s.start (.choose 'A') ∧ s.Accepts s.start .goOn ∧
      s.OffersAccepted s.start ∧ s.OffersAccepted p ∧ p.output = .ended := by
  intro s p
  have hs : s.Arises s.start := .move .fresh .start
  have ho := offersAccepted_of_arises hs
  have hv : s.start.output = .page (s.view .root _) := rfl
  refine ⟨fun hc => ?_, ho.goOn.2 ⟨_, hv, rfl⟩, ho, offersAccepted_of_arises (hs.move .goOn), rfl⟩
  obtain ⟨v, hv', o, hm, -⟩ := (ho.choose 'A').1 hc
  cases hv.symm.trans hv'
  cases hm

end Stage
end Gamebook
