import Gamebook.Proofs.Play.Walk
import Gamebook.Story.Basic

/-!
# Plays restored

A page shown is its record rendered from the variables it was entered with. So these, the page and the
history are all that a play needs to be shown again: when a snapshot of it is resumed, on whatever
play, and when the reader goes back to it from where moves have led.
-/

namespace Gamebook

/-- The play that a snapshot holds, resumed on a stage of the story's own. -/
def Story.resume (s : Story) (allowed : Html.AllowList) (snapshot : Snapshot) :
    Except Refusal Play :=
  (s.stage allowed .empty).resume snapshot

namespace Stage

/-!
## Stages that are played alike

A play sees of a page its rendering alone. Where the pages of two stages have the same renderings,
every sequence of moves has the same outcome.
-/

/-- The plays that moves lead to one after another, with the refusals of those that are refused. -/
def outcomes (s : Stage) : Play → List Move → List (Play × Option Refusal)
  | _, [] => []
  | p, m :: moves => s.perform p m :: s.outcomes (s.perform p m).1 moves

/-- A page rendered on a stage for a reader with variables `vars`. -/
def rendering? (s : Stage) (id : PageId) (vars : Variables) : Option Rendering :=
  (s.pages.page? id).map fun page => page.render s.config s.allowed vars

/-- Whether pages are rendered, assets found and plays begun alike on two stages. -/
structure Alike (a b : Stage) : Prop where
  renderings : ∀ id vars, a.rendering? id vars = b.rendering? id vars
  catalog : a.catalog = b.catalog
  initial : a.initial = b.initial

/-- The play that shows a rendering. -/
def showRendering (s : Stage) (p : Play) (id : PageId) (r : Rendering) : Play :=
  { p with
    vars := r.vars
    moment := some ⟨id, p.vars, s.view id r, r.gotos⟩ }

theorem enter_eq (s : Stage) (p : Play) (id : PageId) :
    s.enter p id =
      ((s.rendering? id p.vars).map (s.showRendering p id)).getD { p with moment := none } := by
  rw [enter, rendering?]
  cases s.pages.page? id <;> rfl

theorem resume_eq (s : Stage) (snapshot : Snapshot) :
    s.resume snapshot =
      if snapshot.schema ≠ Snapshot.currentSchema then .error (.foreignSnapshot snapshot.schema)
      else
        match s.rendering? snapshot.page snapshot.before with
        | none => .error (.lostPage snapshot.page)
        | some r =>
          .ok (s.showRendering ⟨snapshot.before, none, snapshot.history.reverse⟩ snapshot.page r) := by
  rw [resume, rendering?]
  cases s.pages.page? snapshot.page <;> rfl

namespace Alike

variable {a b : Stage}

theorem view (h : a.Alike b) (id : PageId) (r : Rendering) : a.view id r = b.view id r := by
  rw [Stage.view, Stage.view, h.catalog]

theorem showRendering (h : a.Alike b) (p : Play) (id : PageId) (r : Rendering) :
    a.showRendering p id r = b.showRendering p id r := by
  rw [Stage.showRendering, Stage.showRendering, h.view]

theorem enter (h : a.Alike b) (p : Play) (id : PageId) : a.enter p id = b.enter p id := by
  have hs : a.showRendering p id = b.showRendering p id := funext (h.showRendering p id)
  rw [enter_eq, enter_eq, h.renderings, hs]

theorem navigate (h : a.Alike b) (p : Play) (id : PageId) : a.navigate p id = b.navigate p id :=
  h.enter p.leave id

theorem start (h : a.Alike b) : a.start = b.start := by
  have hf : a.fresh = b.fresh := by rw [fresh, fresh, h.initial]
  rw [Stage.start, Stage.start, hf, h.enter]

theorem resume (h : a.Alike b) (snapshot : Snapshot) : a.resume snapshot = b.resume snapshot := by
  simp only [resume_eq, h.renderings, h.showRendering]

theorem perform (h : a.Alike b) (p : Play) (m : Move) : a.perform p m = b.perform p m := by
  cases m with
  | start => simp only [Stage.perform, h.start]
  | choose letter => simp only [Stage.perform, choose, h.navigate]
  | goOn => simp only [Stage.perform, goOn, h.navigate]
  | jump raw => simp only [Stage.perform, jump, h.navigate]
  | back => simp only [Stage.perform, back, h.enter]
  | resume snapshot => simp only [Stage.perform, h.resume]

theorem outcomes (h : a.Alike b) (p : Play) (moves : List Move) :
    a.outcomes p moves = b.outcomes p moves := by
  induction moves generalizing p with
  | nil => rfl
  | cons m moves ih => rw [Stage.outcomes, Stage.outcomes, h.perform, ih]

end Alike

variable {s : Stage} {p q r : Play} {m : Moment} {vars : Variables} {k : Nat}

/-! ## What all plays have in common -/

/-- The plays that moves of any kind lead to, in any order and number and refused ones among them;
what is resumed may be any snapshot at all. -/
inductive Arises (s : Stage) : Play → Prop
  | fresh : Arises s s.fresh
  | move {p : Play} (h : Arises s p) (m : Move) : Arises s (s.perform p m).1

/-- Whether the page shown, if there is one, is shown as it is rendered from the variables it was
entered with. -/
def Renders (s : Stage) (p : Play) : Prop := ∀ m, p.moment = some m → s.Shows m p.vars

theorem renders_of_ended (h : p.moment = none) : s.Renders p :=
  fun m hm => by cases h.symm.trans hm

theorem renders_showPage {id : PageId} {page : Page} (hp : s.pages.page? id = some page) (p : Play) :
    s.Renders (s.showPage p id page) := by
  intro m hm
  cases hm
  exact ⟨page, hp, rfl, rfl, rfl⟩

theorem renders_enter (p : Play) (id : PageId) : s.Renders (s.enter p id) := by
  unfold enter
  cases hp : s.pages.page? id with
  | some page => exact renders_showPage hp p
  | none => exact renders_of_ended rfl

theorem Renders.perform (h : s.Renders p) (m : Move) : s.Renders (s.perform p m).1 := by
  have hc := s.perform_cases p m
  generalize (s.perform p m).1 = next at hc ⊢
  rcases hc with ha | rfl
  · cases ha with
    | start => exact renders_enter _ _
    | choose => exact renders_enter _ _
    | finish => exact renders_of_ended (leave_moment p)
    | goOn => exact renders_enter _ _
    | jump => exact renders_enter _ _
    | back => exact renders_enter _ _
    | resume _ hp => exact renders_showPage hp _
  · exact h

theorem Arises.renders (h : s.Arises p) : s.Renders p := by
  induction h with
  | fresh => exact renders_of_ended rfl
  | move _ m ih => exact ih.perform m

theorem exists_moment (h : p.isEnded = false) : ∃ m, p.moment = some m :=
  Option.isSome_iff_exists.1 (by simpa [Play.isEnded] using h)

/-- A page entered again with the variables that it was entered with before is shown as it was. -/
theorem Shows.enter (h : s.Shows m vars) (history : List Visit) :
    s.enter ⟨m.before, none, history⟩ m.page = ⟨vars, some m, history⟩ := by
  obtain ⟨page, hp, hv, hg, rfl⟩ := h
  obtain ⟨id, before, view, gotos⟩ := m
  simp only at hp hv hg
  simp only [Stage.enter, hp, showPage, hv, hg]

/-! ## Resuming -/

theorem Shows.resume (h : s.Shows m vars) (history : List Visit) :
    s.resume ⟨Snapshot.currentSchema, m.page, m.before, history.reverse⟩ =
      .ok ⟨vars, some m, history⟩ := by
  have he := h.enter history
  obtain ⟨page, hp, -⟩ := h
  simp only [Stage.enter, hp] at he
  simp only [Stage.resume, hp, List.reverse_reverse, he, ne_eq, not_true_eq_false, ↓reduceIte]

theorem resume_eq_ok_iff {snapshot : Snapshot} : s.resume snapshot = .ok p ↔
    snapshot.schema = Snapshot.currentSchema ∧ ∃ page, s.pages.page? snapshot.page = some page ∧
      s.showPage ⟨snapshot.before, none, snapshot.history.reverse⟩ snapshot.page page = p := by
  rw [resume]
  by_cases hs : snapshot.schema = Snapshot.currentSchema
  · rw [if_neg (not_not.2 hs)]
    cases s.pages.page? snapshot.page <;> simp [hs]
  · simp [hs]

/-- A play in which a page is shown is what its snapshot is resumed to. -/
theorem Renders.resume_snapshot (h : s.Renders p) {snapshot : Snapshot}
    (hs : p.snapshot = .ok snapshot) : s.resume snapshot = .ok p := by
  obtain ⟨m, hm, rfl⟩ := Play.snapshot_eq_ok hs
  obtain ⟨vars, moment, history⟩ := p
  cases hm
  exact (h m rfl).resume history

/-- The variables to begin with matter to a start alone. -/
theorem perform_initial (s : Stage) (vars : Variables) (p : Play) {m : Move} (hm : m ≠ .start) :
    ({ s with initial := vars } : Stage).perform p m = s.perform p m := by
  cases m with
  | start => exact absurd rfl hm
  | _ => rfl

theorem outcomes_initial (s : Stage) (vars : Variables) (p : Play) {moves : List Move}
    (hm : .start ∉ moves) :
    ({ s with initial := vars } : Stage).outcomes p moves = s.outcomes p moves := by
  induction moves generalizing p with
  | nil => rfl
  | cons m moves ih =>
      rw [List.mem_cons, not_or] at hm
      rw [outcomes, outcomes, perform_initial s vars p (Ne.symm hm.1), ih _ hm.2]

/-- A snapshot resumed on any play leads to the play that it was taken of, and to the outcomes there of
all moves but a start. -/
theorem Renders.outcomes_resume (h : s.Renders p) {snapshot : Snapshot}
    (hs : p.snapshot = .ok snapshot) (vars : Variables) (q : Play) {moves : List Move}
    (hm : .start ∉ moves) :
    ({ s with initial := vars } : Stage).outcomes q (.resume snapshot :: moves) =
      (p, none) :: s.outcomes p moves := by
  have hq : s.perform q (.resume snapshot) = (p, none) := by
    simp only [Stage.perform, h.resume_snapshot hs]
  rw [outcomes, perform_initial s vars q Move.noConfusion, hq, outcomes_initial s vars p hm]

/-- A snapshot is a complete save. Resumed on any play of a stage that differs at most in the variables
to begin with, it gives the play that it was taken of, and whatever moves follow but a start have the
outcomes that they have there. So it is when the snapshot is resumed from the story alone. -/
theorem resume_snapshot_of_arises (h : s.Arises p) (hp : p.isEnded = false) :
    ∃ snapshot, p.snapshot = .ok snapshot ∧
      (∀ (vars : Variables) (q : Play) (moves : List Move), .start ∉ moves →
        ({ s with initial := vars } : Stage).outcomes q (.resume snapshot :: moves) =
          (p, none) :: s.outcomes p moves) ∧
      ∀ (story : Story) (allowed : Html.AllowList), s = story.stage allowed s.initial →
        story.resume allowed snapshot = .ok p ∧
        ∀ moves, .start ∉ moves →
          (story.stage allowed .empty).outcomes p moves = s.outcomes p moves := by
  obtain ⟨m, hm⟩ := exists_moment hp
  have hs : p.snapshot = .ok ⟨Snapshot.currentSchema, m.page, m.before, p.history.reverse⟩ := by
    simp only [Play.snapshot, hm]
  refine ⟨_, hs, fun vars q moves => h.renders.outcomes_resume hs vars q, ?_⟩
  intro story allowed hstory
  have hr := h.renders.resume_snapshot hs
  rw [hstory] at hr ⊢
  exact ⟨hr, fun moves => outcomes_initial (story.stage allowed s.initial) .empty p⟩

/-- A page that counts its visits, saved at the second and resumed where the count begins elsewhere. -/
theorem resume_snapshot_of_count :
    let s : Stage := { pages := ⟨fun id => if id = .root then some (.ofSource "{add:n}") else none⟩ }
    let p := (s.perform s.start (.jump "1")).1
    let vars : Variables := SortedMap.empty.insert "n" (.number 5)
    s.Arises p ∧ p.isEnded = false ∧ ∃ snapshot, p.snapshot = .ok snapshot ∧
      ({ s with initial := vars } : Stage).outcomes s.fresh [.resume snapshot, .back] =
        [(p, none), s.perform p .back] := by
  intro s p vars
  have hp : s.Arises p := .move (.move .fresh .start) (.jump "1")
  obtain ⟨snapshot, hs, ho, -⟩ := resume_snapshot_of_arises hp rfl
  exact ⟨hp, rfl, snapshot, hs, ho vars s.fresh [.back] (by simp)⟩

/-! ## Going back -/

/-- Whether an accepted choice, continuation or jump leads from one play to another. -/
inductive Forward (s : Stage) (p q : Play) : Prop
  | step (h : s.Steps p q)
  | jump {raw : String} (h : s.jump p raw = .ok q)

/-- The plays to which so many accepted choices, continuations and jumps lead, of which only the last
may end the story. -/
inductive Follows (s : Stage) : Nat → Play → Play → Prop
  | one {p q : Play} (h : s.Forward p q) : Follows s 1 p q
  | cons {k : Nat} {p q r : Play} (h : s.Forward p q) (hq : q.isEnded = false)
      (hr : Follows s k q r) : Follows s (k + 1) p r

/-- Goes back so many times. -/
def backs (s : Stage) : Nat → Play → Except Refusal Play
  | 0, p => .ok p
  | k + 1, p => (s.backs k p).bind s.back

/-- A forward move leaves the page shown, for another page or for the end of the story. -/
theorem Forward.cases (h : s.Forward p q) : q = p.leave ∨ ∃ target, q = s.navigate p target := by
  rcases h with ⟨⟨h⟩ | ⟨h⟩⟩ | ⟨h⟩
  · obtain ⟨m, o, -, -, rfl⟩ := choose_eq_ok.1 h
    exact .inr ⟨_, rfl⟩
  · obtain ⟨m, -, ⟨-, rfl⟩ | ⟨-, -, rfl⟩⟩ := goOn_eq_ok.1 h
    · exact .inl rfl
    · exact .inr ⟨_, rfl⟩
  · unfold Stage.jump at h
    split at h
    · cases h
      exact .inr ⟨_, rfl⟩
    · cases h

theorem history_enter (p : Play) (id : PageId) : (s.enter p id).history = p.history := by
  unfold enter
  cases s.pages.page? id <;> rfl

theorem Forward.history (h : s.Forward p q) (hm : p.moment = some m) :
    q.history = ⟨m.page, m.before⟩ :: p.history := by
  have hl : p.leave.history = ⟨m.page, m.before⟩ :: p.history := by simp only [Play.leave, hm]
  rcases h.cases with rfl | ⟨target, rfl⟩
  · exact hl
  · rw [navigate, history_enter, hl]

theorem Forward.renders (h : s.Forward p q) : s.Renders q := by
  rcases h.cases with rfl | ⟨target, rfl⟩
  · exact renders_of_ended (leave_moment p)
  · exact renders_enter _ _

/-- Going back once undoes one forward move, also one that ended the story. -/
theorem Forward.back (h : s.Forward p q) (hp : s.Renders p) (hs : p.isEnded = false) :
    s.back q = .ok p := by
  obtain ⟨m, hm⟩ := exists_moment hs
  have hh := h.history hm
  obtain ⟨vars, moment, history⟩ := p
  cases hm
  simp only [Stage.back, hh, (hp m rfl).enter]

theorem Follows.backs (h : s.Follows k p q) (hp : s.Renders p) (hs : p.isEnded = false) :
    s.backs k q = .ok p := by
  induction h with
  | one h => exact h.back hp hs
  | cons h hq _ ih =>
      rw [Stage.backs, ih h.renders hq]
      exact h.back hp hs

/-- Going back undoes moves: as many steps back as moves were made restore the play exactly. -/
theorem backs_of_follows (h : s.Arises p) (hs : p.isEnded = false) (hf : s.Follows k p q) :
    s.backs k q = .ok p :=
  hf.backs h.renders hs

/-- A choice and then a continuation to a page that does not exist, undone by going back twice. -/
theorem backs_from_missing_page :
    let hallId : PageId := { number := 2, path := [.a] }
    let s : Stage := { pages := ⟨fun id =>
      if id = .root then some ⟨"", true, false, [⟨'a', "Wait", none⟩]⟩
      else if id = hallId then some (.ofSource "\x7bset:seen=true\x7d") else none⟩ }
    let q := s.navigate (s.navigate s.start hallId) { number := 3, path := [.a] }
    s.Arises s.start ∧ s.start.isEnded = false ∧ s.Follows 2 s.start q ∧ q.isEnded = true ∧
      s.backs 2 q = .ok s.start := by
  intro hallId s q
  have hc : s.choose s.start 'a' = .ok (s.navigate s.start hallId) := rfl
  have hg : s.goOn (s.navigate s.start hallId) = .ok q := by decide +kernel
  have hf : s.Follows 2 s.start q := .cons (.step (.choose hc)) rfl (.one (.step (.goOn hg)))
  have hs : s.Arises s.start := .move .fresh .start
  exact ⟨hs, rfl, hf, rfl, backs_of_follows hs rfl hf⟩

end Stage
end Gamebook
