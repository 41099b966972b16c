import Gamebook.Play.Refusal

/-!
# Snapshots and moves

A snapshot holds the page shown, the variables it was entered with, and the history, oldest first.
Resuming it renders the page again from those variables. `Stage.perform` gathers all that can be
asked of a play; a refused move leaves the play as it was.
-/

namespace Gamebook

/-- A saved play. -/
structure Snapshot where
  schema : String
  page : PageId
  before : Variables
  history : List Visit
deriving DecidableEq

namespace Play

/-- The play as it is saved, if a page is shown. -/
def snapshot (p : Play) : Except Refusal Snapshot :=
  match p.moment with
  | some m => .ok ⟨Snapshot.currentSchema, m.page, m.before, p.history.reverse⟩
  | none => .error .nothingToSave

end Play

/-- What can be asked of a play. -/
inductive Move where
  | start
  | choose (letter : Char)
  | goOn
  | jump (raw : String)
  | back
  | resume (snapshot : Snapshot)

namespace Stage

/-- The play that a snapshot holds. -/
def resume (s : Stage) (snapshot : Snapshot) : Except Refusal Play :=
  if snapshot.schema ≠ Snapshot.currentSchema then .error (.foreignSnapshot snapshot.schema)
  else
    match s.pages.page? snapshot.page with
    | none => .error (.lostPage snapshot.page)
    | some page =>
      .ok (s.showPage ⟨snapshot.before, none, snapshot.history.reverse⟩ snapshot.page page)

/-- The play after a move, and why the move was refused if it was. A start without a first page is
refused only after the old play is given up. -/
def perform (s : Stage) (p : Play) (m : Move) : Play × Option Refusal :=
  let keep (r : Except Refusal Play) : Play × Option Refusal :=
    match r with
    | .ok next => (next, none)
    | .error e => (p, some e)
  match m with
  | .start => (s.start, if s.start.isEnded then some .noRoot else none)
  | .choose letter => keep (s.choose p letter)
  | .goOn => keep (s.goOn p)
  | .jump raw => keep (s.jump p raw)
  | .back => keep (s.back p)
  | .resume snapshot => keep (s.resume snapshot)

end Stage
end Gamebook
