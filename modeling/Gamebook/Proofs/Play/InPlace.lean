import Gamebook.Proofs.Play.Chain

/-!
# Moves in place

The moves as programs that change one part of a play after another, where a refusal keeps what was
changed before it. They answer as `Stage.perform` does, so all but a start are refused before they
change anything.
-/

namespace Gamebook

/-- A program that changes a play in place; a refusal keeps what was changed before it. -/
abbrev InPlace := EStateM Refusal Play

namespace InPlace

/-- Leaves the page shown for the history. -/
def leave : InPlace Unit := do
  match (← get).moment with
  | some m =>
    modify fun p => { p with moment := none }
    modify fun p => { p with history := ⟨m.page, m.before⟩ :: p.history }
  | none => pure ()

/-- Shows a page, rendered from the variables. -/
def showPage (s : Stage) (id : PageId) (page : Page) : InPlace Unit := do
  let before := (← get).vars
  let r := page.render s.config s.allowed before
  modify fun p => { p with vars := r.vars }
  modify fun p => { p with moment := some ⟨id, before, s.view id r, r.gotos⟩ }

/-- Shows a page if it exists, and says whether it does. -/
def enter (s : Stage) (id : PageId) : InPlace Bool := do
  match s.pages.page? id with
  | some page =>
    showPage s id page
    pure true
  | none => pure false

/-- Moves on to a page. -/
def navigate (s : Stage) (target : PageId) : InPlace Output := do
  leave
  let _ ← enter s target
  return (← get).output

/-- A move, answered by what the play then shows. -/
def move (s : Stage) : Move → InPlace Output
  | .start => do
    modify fun p => { p with history := [] }
    modify fun p => { p with moment := none }
    modify fun p => { p with vars := s.initial }
    if ¬(← enter s .root) then throw .noRoot
    return (← get).output
  | .choose letter => do
    match (← get).moment with
    | none => throw .endedAtChoice
    | some m =>
      match m.view.offers.find? fun o => o.letter == letter.toLower with
      | none => throw (.noSuchChoice m.page letter.toLower)
      | some o => navigate s o.target
  | .goOn => do
    match (← get).moment with
    | none => throw .endedAtContinue
    | some m =>
      if m.view.isEnding then
        leave
        return .ended
      if m.view.offers ≠ [] then throw (.waitsForChoice m.page)
      navigate s (m.gotos.getLast?.getD m.page.continuation)
  | .jump raw => do
    match PageId.parse raw with
    | .error cause => throw (.badTarget cause)
    | .ok target => navigate s target
  | .back => do
    match (← get).history with
    | [] => throw .nothingBefore
    | v :: earlier =>
      modify fun p => { p with history := earlier }
      modify fun p => { p with moment := none }
      modify fun p => { p with vars := v.before }
      let _ ← enter s v.page
      return (← get).output
  | .resume snapshot => do
    if snapshot.schema ≠ Snapshot.currentSchema then throw (.foreignSnapshot snapshot.schema)
    match s.pages.page? snapshot.page with
    | none => throw (.lostPage snapshot.page)
    | some page =>
      modify fun p => { p with history := snapshot.history.reverse }
      modify fun p => { p with vars := snapshot.before }
      showPage s snapshot.page page
      return (← get).output

/-- Saves the play. -/
def snapshot : InPlace Snapshot := do
  match (← get).moment with
  | none => throw .nothingToSave
  | some m => return ⟨Snapshot.currentSchema, m.page, m.before, (← get).history.reverse⟩

variable {s : Stage} {p : Play}

theorem run_leave : leave.run p = .ok () p.leave := by
  obtain ⟨vars, moment, history⟩ := p
  cases moment <;> rfl

/-- A page that does not exist leaves the page shown alone, so there must be none. -/
theorem run_enter (hp : p.moment = none) (id : PageId) :
    (enter s id).run p = .ok (s.pages.page? id).isSome (s.enter p id) := by
  obtain ⟨vars, moment, history⟩ := p
  cases hp
  unfold enter Stage.enter
  cases s.pages.page? id <;> rfl

theorem run_navigate (target : PageId) :
    (navigate s target).run p = .ok (s.navigate p target).output (s.navigate p target) := by
  simp only [navigate, EStateM.run_bind, run_leave, run_enter (Stage.leave_moment p),
    EStateM.run_get, EStateM.run_pure, Stage.navigate]

/-- The answer in place to what is asked of a play and leaves it alone. -/
def tell {α : Type} (p : Play) : Except Refusal α → EStateM.Result Refusal Play α
  | .ok a => .ok a p
  | .error e => .error e p

theorem run_snapshot : snapshot.run p = tell p p.snapshot := by
  simp only [snapshot, Play.snapshot, EStateM.run_bind, EStateM.run_get]
  cases p.moment <;> rfl

/-- The answer in place to what a move comes to. -/
def answer : Play × Option Refusal → EStateM.Result Refusal Play Output
  | (next, none) => .ok next.output next
  | (next, some e) => .error e next

/-- A move in place comes to the same play as the move, or the same refusal. -/
theorem run_move (m : Move) : (move s m).run p = answer (s.perform p m) := by
  cases m with
  | start =>
      -- The page shown is cleared before the first page is entered.
      simp only [move, EStateM.run_bind, EStateM.run_modify]
      rw [run_enter rfl]
      simp only [Stage.perform, Stage.start, Stage.fresh]
      cases hp : s.pages.page? .root with
      | none => simp only [Stage.enter, hp]; rfl
      | some page => simp only [Stage.enter, hp]; rfl
  | choose letter =>
      simp only [move, EStateM.run_bind, EStateM.run_get, Stage.perform, Stage.choose]
      cases p.moment with
      | none => rfl
      | some m =>
          simp only
          cases m.view.offers.find? fun o => o.letter == letter.toLower with
          | none => rfl
          | some o => exact run_navigate o.target
  | goOn =>
      simp only [move, EStateM.run_bind, EStateM.run_get, Stage.perform, Stage.goOn]
      cases p.moment with
      | none => rfl
      | some m =>
          simp only
          by_cases he : m.view.isEnding = true
          · have ho : p.leave.output = .ended := by rw [Play.output, Stage.leave_moment]
            simp only [if_pos he, EStateM.run_bind, run_leave, EStateM.run_pure, answer, ho]
          · rw [if_neg he, if_neg he]
            by_cases ho : m.view.offers ≠ []
            · rw [if_pos ho, if_pos ho]
              rfl
            · rw [if_neg ho, if_neg ho]
              exact run_navigate _
  | jump raw =>
      simp only [move, Stage.perform, Stage.jump]
      cases ht : PageId.parse raw with
      | error cause => rfl
      | ok target => exact run_navigate target
  | back =>
      simp only [move, EStateM.run_bind, EStateM.run_get, Stage.perform, Stage.back]
      cases p.history with
      | nil => rfl
      | cons v earlier =>
          simp only [EStateM.run_bind, EStateM.run_modify, EStateM.run_get, EStateM.run_pure]
          rw [run_enter rfl]
          rfl
  | resume snapshot =>
      simp only [move, Stage.perform, Stage.resume]
      by_cases hs : snapshot.schema ≠ Snapshot.currentSchema
      · rw [if_pos hs, if_pos hs]
        rfl
      · rw [if_neg hs, if_neg hs]
        cases s.pages.page? snapshot.page with
        | none => rfl
        | some page => rfl

end InPlace
end Gamebook
