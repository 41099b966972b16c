import Gamebook.Disk.Folder
import Gamebook.Json.Reader
import Gamebook.Replay.Case
import Gamebook.Story.Files

/-!
# Replaying a case

The story in a folder is played from its first page, one action at each stop, until it ends. The
case must have exactly the actions that this takes, each of the kind that its page waits for.
-/

namespace Gamebook.Replay

/-- Why a case fails. -/
inductive Failure where
  | unreadable (path : String)
  | notACase (path : String)
  | schema (found : String)
  | noPages (folder : String)
  | unloadable (cause : Unloadable)
  | refused (cause : Refusal)
  | outOfActions (page : PageId) (step : Nat) (needed : String)
  | wrongAction (page : PageId) (step : Nat) (needed given : String)
  | leftover (used total : Nat)
  | endless (limit : Nat)
  | count (expected : Nat) (observed : List Event)
  | differs (index : Nat) (expected actual : Event)
deriving DecidableEq

namespace Failure

/-- What went wrong. -/
def message : Failure → String
  | unreadable path => "Cannot read " ++ path
  | notACase path => "Testcase " ++ path ++ " is not valid JSON"
  | schema found =>
    "Testcase schema is \"" ++ found ++ "\", this runner reads \"" ++ Case.currentSchema ++ "\"."
  | noPages folder => "Story directory " ++ folder ++ " has no page files."
  | unloadable cause => cause.report.display
  | refused cause => cause.report.display
  | outOfActions page step needed =>
    "Out of actions at page " ++ toString page ++ " (step " ++ toString step
      ++ "); the page needs \x60" ++ needed ++ "\x60."
  | wrongAction page step needed given =>
    "Page " ++ toString page ++ " needs \x60" ++ needed ++ "\x60 but step " ++ toString step
      ++ " gives \x60" ++ given ++ "\x60."
  | leftover used total =>
    "Story ended after " ++ toString used ++ " of " ++ toString total ++ " actions."
  | endless limit => "Playthrough still running after " ++ toString limit ++ " steps."
  | count expected observed =>
    "Expected " ++ toString expected ++ " events, the playthrough produced "
      ++ toString observed.length ++ ":\n" ++ (Json.array (observed.map Event.toJson)).compact
  | differs index expected actual =>
    "Event " ++ toString index ++ " differs.\n  expected: " ++ expected.toJson.compact
      ++ "\n  actual:   " ++ actual.toJson.compact

/-- The report of a failure that lies in the story or in a move. -/
def fault? : Failure → Option Fault
  | unloadable cause => some cause.report
  | refused cause => some cause.report
  | _ => none

end Failure

/-- What a replay has shown. -/
structure Report where
  events : List Event
  consumed : Nat
  steps : Nat
deriving DecidableEq

/-- The kind of action that a page waits for. -/
def neededAt (v : View) : String :=
  if v.offers.isEmpty then Action.goOn.word else (Action.choose 'a').word

/-- The play after an action. -/
def act (stage : Stage) (p : Play) : Action → Except Refusal Play
  | .choose letter => stage.choose p letter
  | .goOn => stage.goOn p

/-- Replays actions from a play on, of which the next stop is number `step`, for at most `left`
stops. -/
def replayFrom (stage : Stage) (limit : Nat) :
    (left step : Nat) → List Action → Play → Except Failure Report
  | 0, _, _, _ => .error (.endless limit)
  | left + 1, step, actions, p =>
    match p.output, actions with
    | .ended, [] => .ok ⟨[.ended], step - 1, step⟩
    | .ended, rest => .error (.leftover (step - 1) (step - 1 + rest.length))
    | .page v, [] => .error (.outOfActions v.page step (neededAt v))
    | .page v, a :: rest =>
      if a.word ≠ neededAt v then .error (.wrongAction v.page step (neededAt v) a.word)
      else
        match act stage p a with
        | .error cause => .error (.refused cause)
        | .ok next =>
          (replayFrom stage limit left (step + 1) rest next).map fun r =>
            { r with events := .ofView v :: r.events }

/-- The most stops of a replay. -/
def maxSteps : Nat := 5000

/-- Replays actions on a stage from its start. -/
def replay (stage : Stage) (actions : List Action) : Except Failure Report :=
  if stage.start.isEnded then .error (.refused .noRoot)
  else replayFrom stage maxSteps maxSteps 1 actions stage.start

/-- The written path of a location. -/
def pathOf (l : Location) : String :=
  String.join (l.map fun n => "/" ++ n)

/-- The story in a folder. -/
def storyIn (d : Disk) (folder : String) : Except Failure Story :=
  let read := match d.locate? folder with
    | some top => StoryFolder.read d top
    | none => .ok ⟨.empty, []⟩
  match read with
  | .error l => .error (.unreadable (pathOf l))
  | .ok f =>
    if f.files.isEmpty then .error (.noPages folder)
    else
      match Story.ofFiles f.files f.assets with
      | .ok s => .ok s
      | .error cause => .error (.unloadable cause)

/-- The case in a file. -/
def caseIn (d : Disk) (path : String) : Except Failure Case :=
  match d.readText? path with
  | none => .error (.unreadable path)
  | some s =>
    match (Json.parse? s).bind Case.ofJson? with
    | none => .error (.notACase path)
    | some c => if c.schema ≠ Case.currentSchema then .error (.schema c.schema) else .ok c

/-- Replays a case on the story in a folder. -/
def run (d : Disk) (folder : String) (c : Case) : Except Failure Report := do
  replay ((← storyIn d folder).stage .story .empty) c.actions

/-- The first expected event that does not accept the actual one, counted from `index`. -/
def firstMismatch? (index : Nat) : List Event → List Event → Option (Nat × Event × Event)
  | e :: es, a :: as =>
    if e.accepts a then firstMismatch? (index + 1) es as else some (index, e, a)
  | _, _ => none

/-- Replays the case in a file and compares what is expected with what happened. -/
def check (d : Disk) (folder path : String) : Except Failure Unit := do
  let c ← caseIn d path
  let r ← run d folder c
  if r.events.length ≠ c.expected.length then .error (.count c.expected.length r.events)
  match firstMismatch? 0 c.expected r.events with
  | some (index, expected, actual) => .error (.differs index expected actual)
  | none => .ok ()

end Gamebook.Replay
