import Gamebook.Play.Snapshot
import Mathlib.Data.List.Chain

/-!
# The chain of variables

Every page that is visited is entered with the variables that the visit before it left behind, the
first one with the initial variables. `Stage.Carries` says this of a history, and every move keeps
it, so no assignment runs twice whatever a reader does.
-/

namespace Gamebook

/-- What a snapshot holds of the play that it is taken of. -/
theorem Play.snapshot_eq_ok {p : Play} {snapshot : Snapshot} (h : p.snapshot = .ok snapshot) :
    ∃ m, p.moment = some m ∧
      snapshot = ⟨Snapshot.currentSchema, m.page, m.before, p.history.reverse⟩ := by
  unfold Play.snapshot at h
  cases hm : p.moment with
  | none => simp [hm] at h
  | some m =>
      simp only [hm, Except.ok.injEq] at h
      exact ⟨m, rfl, h.symm⟩

namespace Stage

/-!
## The plays that moves lead to

`Stage.Advances` says what a move does to a play that accepts it, and under which guard. Every move
advances the play or leaves it alone, so an invariant is shown once for each way to advance.
-/

/-- The play that an accepted move leads to. A start without a first page is refused, but only after
the old play is given up. -/
inductive Advances (s : Stage) (p : Play) : Move → Play → Prop
  | start : Advances s p .start s.start
  | choose {m : Moment} {letter : Char} {o : Offer} (hm : p.moment = some m)
      (ho : m.view.offers.find? (fun o => o.letter == letter.toLower) = some o) :
      Advances s p (.choose letter) (s.navigate p o.target)
  | finish {m : Moment} (hm : p.moment = some m) (he : m.view.isEnding = true) :
      Advances s p .goOn p.leave
  | goOn {m : Moment} (hm : p.moment = some m) (he : m.view.isEnding = false)
      (ho : m.view.offers = []) :
      Advances s p .goOn (s.navigate p (m.gotos.getLast?.getD m.page.continuation))
  | jump {raw : String} {target : PageId} (ht : PageId.parse raw = .ok target) :
      Advances s p (.jump raw) (s.navigate p target)
  | back {v : Visit} {earlier : List Visit} (hh : p.history = v :: earlier) :
      Advances s p .back (s.enter ⟨v.before, none, earlier⟩ v.page)
  | resume {snapshot : Snapshot} {page : Page} (hs : snapshot.schema = Snapshot.currentSchema)
      (hp : s.pages.page? snapshot.page = some page) :
      Advances s p (.resume snapshot)
        (s.showPage ⟨snapshot.before, none, snapshot.history.reverse⟩ snapshot.page page)

/-- A move advances the play or, refused, leaves it as it was. -/
theorem perform_cases (s : Stage) (p : Play) (m : Move) :
    s.Advances p m (s.perform p m).1 ∨ (s.perform p m).1 = p := by
  cases m with
  | start => exact .inl .start
  | choose letter =>
      simp only [perform, choose]
      cases hm : p.moment with
      | none => exact .inr rfl
      | some m =>
          cases ho : m.view.offers.find? (fun o => o.letter == letter.toLower) with
          | none => exact .inr (by simp [ho])
          | some o => simpa only [ho] using Or.inl (Advances.choose hm ho)
  | goOn =>
      simp only [perform, goOn]
      cases hm : p.moment with
      | none => exact .inr rfl
      | some m =>
          by_cases he : m.view.isEnding = true
          · simpa [he] using Or.inl (Advances.finish hm he)
          · by_cases ho : m.view.offers = []
            · rw [Bool.not_eq_true] at he
              simpa [he, ho] using Or.inl (Advances.goOn hm he ho)
            · exact .inr (by simp [he, ho])
  | jump raw =>
      simp only [perform, jump]
      cases ht : PageId.parse raw with
      | ok target => exact .inl (.jump ht)
      | error cause => exact .inr rfl
  | back =>
      simp only [perform, back]
      cases hh : p.history with
      | nil => exact .inr rfl
      | cons v earlier => exact .inl (.back hh)
  | resume snapshot =>
      simp only [perform, resume]
      by_cases hs : snapshot.schema = Snapshot.currentSchema
      · cases hp : s.pages.page? snapshot.page with
        | none => exact .inr (by simp [hs])
        | some page => simpa [hs] using Or.inl (Advances.resume hs hp)
      · exact .inr (by simp [hs])

/-- The plays that moves lead to, in any order and number and refused ones among them. A snapshot
leaves the play that it is taken of alone, and is resumed in any play of the stage. -/
inductive Reaches (s : Stage) : Play → Prop
  | fresh : Reaches s s.fresh
  | move {p : Play} {m : Move} (h : Reaches s p) (hm : ∀ snapshot, m ≠ .resume snapshot) :
      Reaches s (s.perform p m).1
  | resume {p q : Play} {snapshot : Snapshot} (h : Reaches s p) (hq : Reaches s q)
      (hs : q.snapshot = .ok snapshot) : Reaches s (s.perform p (.resume snapshot)).1

/-! ## Coherence -/

variable {s : Stage} {p : Play}

/-- The variables that a visit leaves behind; none if its page does not exist. -/
def varsAfter? (s : Stage) (v : Visit) : Option Variables :=
  (s.pages.page? v.page).map fun page => (page.render s.config s.allowed v.before).vars

/-- The variables at the end of a history, newest visit first. -/
def lastVars? (s : Stage) : List Visit → Option Variables
  | [] => some s.initial
  | v :: _ => s.varsAfter? v

/-- Whether the visits of a history, newest first, continue one another and end with `vars`. -/
def Carries (s : Stage) : List Visit → Variables → Prop
  | [], vars => vars = s.initial
  | v :: earlier, vars => s.varsAfter? v = some vars ∧ s.Carries earlier v.before

/-- Whether a moment shows its page rendered from the variables it was entered with, `vars` being
those after it. -/
def Shows (s : Stage) (m : Moment) (vars : Variables) : Prop :=
  ∃ page, s.pages.page? m.page = some page ∧
    m.view = s.view m.page (page.render s.config s.allowed m.before) ∧
    m.gotos = (page.render s.config s.allowed m.before).gotos ∧
    vars = (page.render s.config s.allowed m.before).vars

/-- A play in which every visited page has been applied exactly once: all pages of the history exist,
the first was entered with the initial variables and each other with those that the one before left,
the page shown goes on from there and is the rendering of its page, and the variables are the last
link. -/
structure Coherent (s : Stage) (p : Play) : Prop where
  visited : ∀ v ∈ p.history, (s.pages.page? v.page).isSome
  first : ∀ v, p.history.getLast? = some v → v.before = s.initial
  next : p.history.IsChain fun later earlier => s.varsAfter? earlier = some later.before
  entered : ∀ m, p.moment = some m → s.lastVars? p.history = some m.before
  shown : ∀ m, p.moment = some m → s.Shows m p.vars
  ended : p.moment = none → s.lastVars? p.history = some p.vars

/-! ## Histories -/

theorem Carries.visited {h : List Visit} {vars : Variables} (hc : s.Carries h vars) :
    ∀ v ∈ h, (s.pages.page? v.page).isSome := by
  induction h generalizing vars with
  | nil => simp
  | cons w earlier ih =>
      intro v hv
      rcases List.mem_cons.1 hv with rfl | hv
      · obtain ⟨page, hp, -⟩ := Option.map_eq_some_iff.1 hc.1
        simp [hp]
      · exact ih hc.2 v hv

theorem Carries.first {h : List Visit} {vars : Variables} (hc : s.Carries h vars) :
    ∀ v, h.getLast? = some v → v.before = s.initial := by
  induction h generalizing vars with
  | nil => simp
  | cons w earlier ih =>
      intro v hv
      cases earlier with
      | nil =>
          simp only [List.getLast?_singleton, Option.some.injEq] at hv
          exact hv ▸ hc.2
      | cons x rest => exact ih hc.2 v (by simpa [List.getLast?_cons_cons] using hv)

theorem Carries.next {h : List Visit} {vars : Variables} (hc : s.Carries h vars) :
    h.IsChain fun later earlier => s.varsAfter? earlier = some later.before := by
  induction h generalizing vars with
  | nil => exact .nil
  | cons w earlier ih =>
      cases earlier with
      | nil => exact .singleton _
      | cons x rest => exact .cons_cons hc.2.1 (ih hc.2)

theorem Carries.lastVars? {h : List Visit} {vars : Variables} (hc : s.Carries h vars) :
    s.lastVars? h = some vars := by
  cases h with
  | nil => exact congrArg some hc.symm
  | cons v earlier => exact hc.1

/-! ## What a move keeps -/

/-- The invariant of plays: the history carries the variables that the page shown was entered with,
or, without one, the variables of the play. -/
def Sound (s : Stage) (p : Play) : Prop :=
  match p.moment with
  | some m => s.Carries p.history m.before ∧ s.Shows m p.vars
  | none => s.Carries p.history p.vars

theorem Sound.of_moment {m : Moment} (h : s.Sound p) (hm : p.moment = some m) :
    s.Carries p.history m.before ∧ s.Shows m p.vars := by
  simpa only [Sound, hm] using h

theorem Sound.of_ended (h : s.Sound p) (hm : p.moment = none) : s.Carries p.history p.vars := by
  simpa only [Sound, hm] using h

theorem Sound.coherent (h : s.Sound p) : s.Coherent p := by
  cases hm : p.moment with
  | some m =>
      obtain ⟨hc, hs⟩ := h.of_moment hm
      exact
        { visited := hc.visited
          first := hc.first
          next := hc.next
          entered := fun n hn => by cases hm.symm.trans hn; exact hc.lastVars?
          shown := fun n hn => by cases hm.symm.trans hn; exact hs
          ended := fun hn => by cases hm.symm.trans hn }
  | none =>
      have hc := h.of_ended hm
      exact
        { visited := hc.visited
          first := hc.first
          next := hc.next
          entered := fun n hn => by cases hm.symm.trans hn
          shown := fun n hn => by cases hm.symm.trans hn
          ended := fun _ => hc.lastVars? }

/-- The page left and the variables it leaves behind join the history. -/
theorem Sound.leave (h : s.Sound p) : s.Carries p.leave.history p.leave.vars := by
  cases hm : p.moment with
  | some m =>
      obtain ⟨hc, page, hp, -, -, hv⟩ := h.of_moment hm
      simp only [Play.leave, hm]
      exact ⟨Option.map_eq_some_iff.2 ⟨page, hp, hv.symm⟩, hc⟩
  | none =>
      simpa only [Play.leave, hm] using h.of_ended hm

theorem leave_moment (p : Play) : p.leave.moment = none := by
  cases hm : p.moment <;> simp [Play.leave, hm]

theorem sound_showPage {id : PageId} {page : Page} (hp : s.pages.page? id = some page)
    (hc : s.Carries p.history p.vars) : s.Sound (s.showPage p id page) :=
  ⟨hc, page, hp, rfl, rfl, rfl⟩

/-- Entering a page from the end of a history, whether or not the page exists. -/
theorem sound_enter (hc : s.Carries p.history p.vars) (id : PageId) : s.Sound (s.enter p id) := by
  unfold enter
  cases hp : s.pages.page? id with
  | some page => exact sound_showPage hp hc
  | none => exact hc

theorem sound_fresh (s : Stage) : s.Sound s.fresh := rfl

theorem sound_start (s : Stage) : s.Sound s.start := sound_enter (p := s.fresh) rfl _

theorem Sound.navigate (h : s.Sound p) (target : PageId) : s.Sound (s.navigate p target) :=
  sound_enter h.leave target

/-- Going back enters the last page of the history with the variables it was entered with. -/
theorem Sound.back {v : Visit} {earlier : List Visit} (h : s.Sound p)
    (hh : p.history = v :: earlier) : s.Sound (s.enter ⟨v.before, none, earlier⟩ v.page) := by
  have hc : ∃ vars, s.Carries (v :: earlier) vars := by
    cases hm : p.moment with
    | some m => exact ⟨_, hh ▸ (h.of_moment hm).1⟩
    | none => exact ⟨_, hh ▸ h.of_ended hm⟩
  obtain ⟨vars, hc⟩ := hc
  exact sound_enter (p := ⟨v.before, none, earlier⟩) hc.2 _

/-- A snapshot holds the history and the variables of the page shown, from which it is shown again. -/
theorem Sound.resume {q : Play} {snapshot : Snapshot} {page : Page} (h : s.Sound q)
    (hs : q.snapshot = .ok snapshot) (hp : s.pages.page? snapshot.page = some page) :
    s.Sound
      (s.showPage ⟨snapshot.before, none, snapshot.history.reverse⟩ snapshot.page page) := by
  obtain ⟨m, hm, rfl⟩ := Play.snapshot_eq_ok hs
  refine sound_showPage hp ?_
  simpa only [List.reverse_reverse] using (h.of_moment hm).1

/-- A move keeps the invariant; what is resumed must be a snapshot of a play that has it. -/
theorem Sound.perform {m : Move} (h : s.Sound p)
    (hm : ∀ snapshot, m = .resume snapshot → ∃ q, s.Sound q ∧ q.snapshot = .ok snapshot) :
    s.Sound (s.perform p m).1 := by
  have hc := s.perform_cases p m
  generalize (s.perform p m).1 = next at hc ⊢
  rcases hc with ha | rfl
  · cases ha with
    | start => exact sound_start s
    | choose => exact h.navigate _
    | finish => simpa only [Sound, leave_moment] using h.leave
    | goOn => exact h.navigate _
    | jump => exact h.navigate _
    | back hh => exact h.back hh
    | resume _ hp =>
        obtain ⟨q, hq, hs⟩ := hm _ rfl
        exact hq.resume hs hp
  · exact h

theorem Reaches.sound (h : s.Reaches p) : s.Sound p := by
  induction h with
  | fresh => exact sound_fresh s
  | move _ hm ih => exact ih.perform fun _ he => absurd he (hm _)
  | resume _ _ hs ih ihq =>
      exact ih.perform fun _ he => by cases he; exact ⟨_, ihq, hs⟩

/-- Whatever a reader does, directives on the path are applied exactly once. -/
theorem coherent_of_reaches (h : s.Reaches p) : s.Coherent p := h.sound.coherent

/-- A page that counts its visits, left for itself, saved and resumed after going back. -/
theorem coherent_resumed_count :
    let s : Stage := { pages := ⟨fun id => if id = .root then some (.ofSource "{add:n}") else none⟩ }
    let p := (s.perform s.start (.jump "1")).1
    ∃ snapshot, p.snapshot = .ok snapshot ∧
      s.Coherent (s.perform (s.perform p .back).1 (.resume snapshot)).1 := by
  intro s p
  have hp : s.Reaches p := .move (.move (m := .start) .fresh (by simp)) (by simp)
  exact ⟨_, rfl, coherent_of_reaches (.resume (.move hp (by simp)) hp rfl)⟩

end Stage
end Gamebook
