import Gamebook.Proofs.Play.Walk
import Gamebook.Replay.Run

/-!
# What a replay replays

A replay succeeds exactly on the actions that lead from the start of the story past one displayed page
each to its end, in fewer steps than the limit. All that one stop can do is said once; a run of stops is
then the play that its actions make.
-/

namespace Gamebook.Replay

variable {s : Stage} {p q next : Play} {v : View} {a : Action} {as more : List Action}
  {vs : List View} {limit left step : Nat} {cause : Refusal} {r : Report}

/-! ## The play that actions make -/

/-- Whether a page waits for an action: for a choice if it offers any, and to go on if not. -/
def Waits (v : View) : Action → Prop
  | .choose _ => v.offers ≠ []
  | .goOn => v.offers = []

instance : DecidablePred (Waits v) := fun
  | .choose _ => inferInstanceAs (Decidable (v.offers ≠ []))
  | .goOn => inferInstanceAs (Decidable (v.offers = []))

/-- Whether actions, each taken at a displayed page that waits for it and none of them refused, lead from
a play past some pages to another play. -/
inductive Plays (s : Stage) : Play → List Action → List View → Play → Prop
  | nil (p : Play) : Plays s p [] [] p
  | cons {p next q : Play} {v : View} {a : Action} {as : List Action} {vs : List View}
      (hv : p.output = .page v) (hw : Waits v a) (ha : act s p a = .ok next)
      (h : Plays s next as vs q) : Plays s p (a :: as) (v :: vs) q

/-- Whether a story that has a first page is played to its end by some actions, and by no fewer of them,
past some pages. -/
def PlaysToEnd (s : Stage) (as : List Action) (vs : List View) : Prop :=
  s.start.isEnded = false ∧ ∃ q, Plays s s.start as vs q ∧ q.output = .ended

/-- Whether a story is refused for want of a first page, or some actions, in fewer than 5000 steps, for a
choice: at a page that offers choices, to which the actions before it play the story. -/
def IsRefused (s : Stage) (as : List Action) (cause : Refusal) : Prop :=
  s.start.isEnded = true ∧ cause = .noRoot ∨
  s.start.isEnded = false ∧ ∃ before letter behind vs q v, as = before ++ .choose letter :: behind ∧
    Plays s s.start before vs q ∧ before.length < 5000 ∧ q.output = .page v ∧ v.offers ≠ [] ∧
    s.choose q letter = .error cause

theorem Plays.length (h : Plays s p as vs q) : vs.length = as.length := by
  induction h with
  | nil p => rfl
  | cons hv hw ha h ih => rw [List.length_cons, List.length_cons, ih]

theorem word_eq_neededAt_iff : a.word = neededAt v ↔ Waits v a := by
  cases a with
  | choose letter => cases ho : v.offers <;> simp [Action.word, neededAt, Waits, ho]
  | goOn => cases ho : v.offers <;> simp [Action.word, neededAt, Waits, ho]

theorem exists_goOn (hv : p.output = .page v) (hw : Waits v .goOn) : ∃ next, s.goOn p = .ok next := by
  obtain ⟨m, hm, rfl⟩ := Play.output_eq_page_iff.1 hv
  have ho : m.view.offers = [] := hw
  cases he : m.view.isEnding with
  | true => exact ⟨_, Stage.goOn_eq_ok.2 ⟨m, hm, .inl ⟨he, rfl⟩⟩⟩
  | false => exact ⟨_, Stage.goOn_eq_ok.2 ⟨m, hm, .inr ⟨he, ho, rfl⟩⟩⟩

/-! ## One stop -/

/-- A report with a page in front. -/
def Report.behind (v : View) (r : Report) : Report := { r with events := .ofView v :: r.events }

theorem replayFrom_act (hv : p.output = .page v) (hw : Waits v a) :
    replayFrom s limit (left + 1) step (a :: as) p =
      match act s p a with
      | .error cause => .error (.refused cause)
      | .ok next => (replayFrom s limit left (step + 1) as next).map (Report.behind v) := by
  simp only [replayFrom, hv, ne_eq, word_eq_neededAt_iff, hw, not_true_eq_false, ↓reduceIte]
  rfl

theorem replayFrom_ended (hp : p.output = .ended) : replayFrom s limit (left + 1) step as p =
    if as = [] then .ok ⟨[.ended], step - 1, step⟩
    else .error (.leftover (step - 1) (step - 1 + as.length)) := by
  cases as with
  | nil => simp [replayFrom, hp]
  | cons a as => simp [replayFrom, hp]

theorem stop_cases (s : Stage) (limit left step : Nat) (as : List Action) (p : Play) :
    let result := replayFrom s limit (left + 1) step as p
    (p.output = .ended ∧ as = [] ∧ result = .ok ⟨[.ended], step - 1, step⟩) ∨
    (p.output = .ended ∧ as ≠ [] ∧ result = .error (.leftover (step - 1) (step - 1 + as.length))) ∨
    ∃ v, p.output = .page v ∧
      ((as = [] ∧ result = .error (.outOfActions v.page step (neededAt v))) ∨
      ∃ a rest, as = a :: rest ∧
        ((¬ Waits v a ∧ result = .error (.wrongAction v.page step (neededAt v) a.word)) ∨
        Waits v a ∧
          ((∃ cause, act s p a = .error cause ∧ result = .error (.refused cause)) ∨
          ∃ next, act s p a = .ok next ∧
            result = (replayFrom s limit left (step + 1) rest next).map (Report.behind v)))) := by
  intro result
  cases ho : p.output with
  | ended =>
      by_cases has : as = []
      · exact .inl ⟨rfl, has, (replayFrom_ended ho).trans (if_pos has)⟩
      · exact .inr (.inl ⟨rfl, has, (replayFrom_ended ho).trans (if_neg has)⟩)
  | page v =>
      refine .inr (.inr ⟨v, rfl, ?_⟩)
      cases as with
      | nil => exact .inl ⟨rfl, by simp only [result, replayFrom, ho]⟩
      | cons a rest =>
          refine .inr ⟨a, rest, rfl, ?_⟩
          by_cases hw : Waits v a
          · have hr : result = _ := replayFrom_act ho hw
            refine .inr ⟨hw, ?_⟩
            cases ha : act s p a with
            | error cause => exact .inl ⟨cause, rfl, by rw [hr, ha]⟩
            | ok next => exact .inr ⟨next, rfl, by rw [hr, ha]⟩
          · refine .inl ⟨hw, ?_⟩
            simp only [result, replayFrom, ho, ne_eq, word_eq_neededAt_iff, hw, not_false_eq_true,
              ↓reduceIte]

/-! ## Runs of stops -/

/-- A report with some pages in front. -/
def Report.behindAll (vs : List View) (r : Report) : Report :=
  { r with events := vs.map .ofView ++ r.events }

/-- Actions that are played are replayed one stop each. -/
theorem Plays.replayFrom_eq (h : Plays s p as vs q) (limit left step : Nat) (more : List Action) :
    replayFrom s limit (left + as.length) step (as ++ more) p =
      (replayFrom s limit left (step + as.length) more q).map (Report.behindAll vs) := by
  induction h generalizing step with
  | nil p =>
      have hid : Report.behindAll [] = id := rfl
      rw [hid]
      cases hr : replayFrom s limit left step more p with
      | error cause => simp [hr, Except.map]
      | ok r => simp [hr, Except.map]
  | @cons p next q v a as vs hv hw ha h ih =>
      have hl : left + (a :: as).length = left + as.length + 1 := by rw [List.length_cons]; omega
      have hs : step + (a :: as).length = step + 1 + as.length := by rw [List.length_cons]; omega
      rw [hl, hs, List.cons_append, replayFrom_act hv hw, ha]
      dsimp only
      rw [ih]
      cases replayFrom s limit left (step + 1 + as.length) more q with
      | error cause => rfl
      | ok r => rfl

/-- A replay succeeds exactly on the actions that play the story to its end before the limit. -/
theorem replayFrom_eq_ok_iff : replayFrom s limit left step as p = .ok r ↔
    ∃ vs q, Plays s p as vs q ∧ q.output = .ended ∧ as.length < left ∧
      r = ⟨vs.map .ofView ++ [.ended], step + as.length - 1, step + as.length⟩ := by
  constructor
  · intro h
    induction left generalizing step as p r with
    | zero => cases h
    | succ left ih =>
        rcases stop_cases s limit left step as p with ⟨ho, rfl, hr⟩ | ⟨-, -, hr⟩ |
          ⟨v, hv, ⟨-, hr⟩ | ⟨a, rest, rfl, ⟨-, hr⟩ | ⟨hw, ⟨cause, -, hr⟩ | ⟨next, ha, hr⟩⟩⟩⟩
        · cases hr.symm.trans h
          exact ⟨[], p, .nil p, ho, Nat.succ_pos left, rfl⟩
        · cases hr.symm.trans h
        · cases hr.symm.trans h
        · cases hr.symm.trans h
        · cases hr.symm.trans h
        · rw [hr] at h
          cases hn : replayFrom s limit left (step + 1) rest next with
          | error cause =>
              rw [hn] at h
              cases h
          | ok r' =>
              rw [hn] at h
              cases h
              obtain ⟨vs, q, hp, ho, hl, rfl⟩ := ih hn
              refine ⟨v :: vs, q, .cons hv hw ha hp, ho, Nat.succ_lt_succ hl, ?_⟩
              have hs : step + (a :: rest).length = step + 1 + rest.length := by
                rw [List.length_cons]
                omega
              rw [hs]
              rfl
  · rintro ⟨vs, q, hp, ho, hl, rfl⟩
    obtain ⟨k, rfl⟩ : ∃ k, left = k + 1 + as.length := ⟨left - 1 - as.length, by omega⟩
    have hr := hp.replayFrom_eq limit (k + 1) step []
    rw [List.append_nil, replayFrom_ended ho, if_pos rfl] at hr
    exact hr

/-- Actions behind those that end the story are left over. -/
theorem replayFrom_append (h : replayFrom s limit left step as p = .ok r) (hm : more ≠ []) :
    replayFrom s limit left step (as ++ more) p =
      .error (.leftover (step + as.length - 1) (step + as.length - 1 + more.length)) := by
  obtain ⟨vs, q, hp, ho, hl, -⟩ := replayFrom_eq_ok_iff.1 h
  obtain ⟨k, rfl⟩ : ∃ k, left = k + 1 + as.length := ⟨left - 1 - as.length, by omega⟩
  rw [hp.replayFrom_eq limit (k + 1) step more, replayFrom_ended ho, if_neg hm]
  rfl

/-- A replay is refused exactly where a page that waits for a choice is played to, and the next action
is a choice that is refused there. -/
theorem replayFrom_eq_refused_iff : replayFrom s limit left step as p = .error (.refused cause) ↔
    ∃ before letter behind vs q v, as = before ++ .choose letter :: behind ∧
      Plays s p before vs q ∧ before.length < left ∧ q.output = .page v ∧ v.offers ≠ [] ∧
      s.choose q letter = .error cause := by
  constructor
  · intro h
    induction left generalizing step as p with
    | zero => cases h
    | succ left ih =>
        rcases stop_cases s limit left step as p with ⟨-, -, hr⟩ | ⟨-, -, hr⟩ |
          ⟨v, hv, ⟨-, hr⟩ | ⟨a, rest, rfl, ⟨-, hr⟩ | ⟨hw, ⟨cause', ha, hr⟩ | ⟨next, ha, hr⟩⟩⟩⟩
        · cases hr.symm.trans h
        · cases hr.symm.trans h
        · cases hr.symm.trans h
        · cases hr.symm.trans h
        · cases hr.symm.trans h
          cases a with
          | choose letter =>
              exact ⟨[], letter, rest, [], p, v, rfl, .nil p, Nat.succ_pos left, hv, hw, ha⟩
          | goOn =>
              obtain ⟨next, hn⟩ := exists_goOn (s := s) hv hw
              cases hn.symm.trans ha
        · rw [hr] at h
          cases hn : replayFrom s limit left (step + 1) rest next with
          | ok r' =>
              rw [hn] at h
              cases h
          | error cause' =>
              rw [hn] at h
              cases h
              obtain ⟨before, letter, behind, vs, q, u, rfl, hp, hl, hu, ho, hc⟩ := ih hn
              exact ⟨a :: before, letter, behind, v :: vs, q, u, rfl, .cons hv hw ha hp,
                Nat.succ_lt_succ hl, hu, ho, hc⟩
  · rintro ⟨before, letter, behind, vs, q, v, rfl, hp, hl, hv, ho, hc⟩
    obtain ⟨k, rfl⟩ : ∃ k, left = k + 1 + before.length := ⟨left - 1 - before.length, by omega⟩
    have hw : Waits v (.choose letter) := ho
    have ha : act s q (.choose letter) = .error cause := hc
    rw [hp.replayFrom_eq limit (k + 1) step _, replayFrom_act hv hw, ha]
    rfl

/-! ## Replays of a story -/

theorem replay_eq_ok_iff : replay s as = .ok r ↔ ∃ vs, PlaysToEnd s as vs ∧ as.length < maxSteps ∧
    r = ⟨vs.map .ofView ++ [.ended], as.length, as.length + 1⟩ := by
  rw [replay]
  cases hs : s.start.isEnded with
  | true => simp [PlaysToEnd, hs]
  | false =>
      rw [if_neg Bool.false_ne_true, replayFrom_eq_ok_iff, Nat.add_comm 1 as.length,
        Nat.add_sub_cancel]
      constructor
      · rintro ⟨vs, q, hp, ho, hl, hr⟩
        exact ⟨vs, ⟨hs, q, hp, ho⟩, hl, hr⟩
      · rintro ⟨vs, ⟨-, q, hp, ho⟩, hl, hr⟩
        exact ⟨vs, q, hp, ho, hl, hr⟩

theorem replay_append (h : replay s as = .ok r) (hm : more ≠ []) :
    replay s (as ++ more) = .error (.leftover as.length (as.length + more.length)) := by
  obtain ⟨vs, hp, -, -⟩ := replay_eq_ok_iff.1 h
  rw [replay, hp.1, if_neg Bool.false_ne_true] at h ⊢
  rw [replayFrom_append h hm, Nat.add_comm 1 as.length, Nat.add_sub_cancel]

theorem replay_eq_refused_iff : replay s as = .error (.refused cause) ↔ IsRefused s as cause := by
  rw [replay, IsRefused]
  cases hs : s.start.isEnded with
  | true => simp [eq_comm]
  | false =>
      rw [if_neg Bool.false_ne_true, replayFrom_eq_refused_iff]
      simp [maxSteps]

/-! ## Replays of a case -/

theorem storyIn_ne_refused (d : Disk) (folder : String) : storyIn d folder ≠ .error (.refused cause) := by
  unfold storyIn
  dsimp only
  split
  · nofun
  · split
    · nofun
    · split
      · nofun
      · nofun

/-- A case is replayed exactly as its actions play the story: it succeeds on those that lead to the end past
one page each, before the limit, and reports these pages; any action behind them is left over; and no move is
refused but a start without a first page, and a choice where choices are offered. -/
theorem run_follows_play (d : Disk) (folder : String) (c : Case) :
    let n := c.actions.length
    (∀ r, run d folder c = .ok r ↔ ∃ s vs, storyIn d folder = .ok s ∧
      PlaysToEnd (s.stage .story .empty) c.actions vs ∧ vs.length = n ∧ n < 5000 ∧
      r = ⟨vs.map .ofView ++ [.ended], n, n + 1⟩) ∧
    (∀ r more, run d folder c = .ok r → more ≠ [] →
      run d folder { c with actions := c.actions ++ more } = .error (.leftover n (n + more.length))) ∧
    ∀ cause, run d folder c = .error (.refused cause) ↔ ∃ s, storyIn d folder = .ok s ∧
      IsRefused (s.stage .story .empty) c.actions cause := by
  intro n
  have hrun (as : List Action) : run d folder { c with actions := as } =
      (storyIn d folder).bind fun s => replay (s.stage .story .empty) as := rfl
  cases hs : storyIn d folder with
  | error f =>
      have hf (as : List Action) : run d folder { c with actions := as } = .error f := by
        rw [hrun, hs]
        rfl
      rw [hf c.actions]
      refine ⟨fun r => by simp, fun r more h hm => ?_, fun cause => ?_⟩
      · cases h
      · have hne : f ≠ .refused cause := fun he => storyIn_ne_refused d folder (he ▸ hs)
        simp [hne]
  | ok s =>
      have ho (as : List Action) : run d folder { c with actions := as } =
          replay (s.stage .story .empty) as := by
        rw [hrun, hs]
        rfl
      rw [ho c.actions]
      refine ⟨fun r => replay_eq_ok_iff.trans ⟨?_, ?_⟩, fun r more h hm => ?_, fun cause =>
        replay_eq_refused_iff.trans ⟨fun h => ⟨s, rfl, h⟩, ?_⟩⟩
      · rintro ⟨vs, hp, hl, hr⟩
        obtain ⟨-, q, hq, -⟩ := id hp
        exact ⟨s, vs, rfl, hp, hq.length, hl, hr⟩
      · rintro ⟨s', vs, hs', hp, -, hl, hr⟩
        cases hs'
        exact ⟨vs, hp, hl, hr⟩
      · rw [ho]
        exact replay_append h hm
      · rintro ⟨s', hs', h⟩
        cases hs'
        exact h

/-- A folder with the story of a fork. -/
def forkDisk : Disk :=
  ⟨.ofList [(["fork", "1.txt"], .text "Fork\na) Left\nb) Right"),
    (["fork", "2b.txt"], .text "Right side")], []⟩

/-- At a fork a choice and a step further end the story; one more step is left over, and a letter that is not
offered is refused. -/
theorem run_follows_play_fork :
    let c : Case := ⟨Case.currentSchema, [.choose 'b', .goOn], []⟩
    let r : Report := ⟨[.page "1" (some "<p>Fork</p>") ["a|Left", "b|Right"],
      .page "2b" (some "<p>Right side</p>") [], .ended], 2, 3⟩
    run forkDisk "/fork" c = .ok r ∧
      (∃ s vs, storyIn forkDisk "/fork" = .ok s ∧ PlaysToEnd (s.stage .story .empty) c.actions vs ∧
        vs.length = 2 ∧ 2 < 5000 ∧ r = ⟨vs.map .ofView ++ [.ended], 2, 3⟩) ∧
      run forkDisk "/fork" { c with actions := c.actions ++ [.goOn] } = .error (.leftover 2 3) := by
  intro c r
  have h : run forkDisk "/fork" c = .ok r := by
    have ho : (run forkDisk "/fork" c).toOption = some r := by decide +kernel
    cases hr : run forkDisk "/fork" c with
    | error f => rw [hr] at ho; cases ho
    | ok r' => rw [hr] at ho; cases ho; rfl
  obtain ⟨hok, hmore, -⟩ := run_follows_play forkDisk "/fork" c
  exact ⟨h, (hok r).1 h, hmore r [.goOn] h (List.cons_ne_nil _ _)⟩

end Gamebook.Replay
