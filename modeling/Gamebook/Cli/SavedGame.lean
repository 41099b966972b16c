import Gamebook.Disk.Basic
import Gamebook.Json.Printer
import Gamebook.Json.Reader
import Gamebook.Play.Json

/-!
# Saved games

A saved game is a snapshot of a play with the name of its story, kept as a data file. A play that
has ended has nothing to save.
-/

namespace Gamebook

/-- A snapshot and the story that it belongs to. -/
structure SavedGame where
  schema : String
  storyId : String
  snapshot : Snapshot
deriving DecidableEq

namespace SavedGame

/-- The version of the form in which games are saved. -/
def currentSchema : String := "branchpage-state.v1"

/-- Why a game cannot be saved or loaded. -/
inductive Failure where
  | missing (path : String)
  | unreadable (path : String)
  | malformed (path : String)
  | foreign (schema : String)
  | otherStory (expected actual : String)
  | unwritable (path : String)
  | refused (cause : Refusal)
deriving DecidableEq

namespace Failure

/-- The report of a failure. -/
def report : Failure → Fault
  | missing path =>
    { code := "CLI_STATE_NOT_FOUND", message := "State file does not exist: " ++ path }
  | unreadable path => { code := "CLI_STATE_READ", message := "State file holds no text: " ++ path }
  | malformed path =>
    { code := "CLI_STATE_INVALID", message := "State file holds no saved game: " ++ path }
  | foreign schema =>
    { code := "CLI_STATE_SCHEMA", message := "Unsupported player state schema: " ++ schema }
  | otherStory expected actual =>
    { code := "TUI_STATE_STORY_MISMATCH"
      message := "State story mismatch. expected=" ++ expected ++ " actual=" ++ actual }
  | unwritable path =>
    { code := "CLI_STATE_WRITE", message := "State file cannot be written: " ++ path }
  | refused cause => cause.report

end Failure

/-- The data form. -/
def toJson (g : SavedGame) : Json :=
  .object [("schemaVersion", .string g.schema), ("storyId", .string g.storyId),
    ("snapshot", g.snapshot.toJson)]

/-- The saved game of a data form. -/
def ofJson? (v : Json) : Option SavedGame := do
  let r ← v.record? ["schemaVersion", "storyId", "snapshot"]
  some ⟨← r.required? "schemaVersion" Json.string?, ← r.required? "storyId" Json.string?,
    ← r.required? "snapshot" Snapshot.ofJson?⟩

/-- The written form. -/
def write (g : SavedGame) : String := g.toJson.pretty

/-- The saved game that a text holds; `path` is the file that the text is from. -/
def read (path text : String) : Except Failure SavedGame :=
  match (Json.parse? text).bind ofJson? with
  | none => .error (.malformed path)
  | some g => if g.schema ≠ currentSchema then .error (.foreign g.schema) else .ok g

/-- The saved game in a file; `here` is the folder that a relative path starts from. Nothing is
found at the empty path. -/
def load (d : Disk) (here path : String) : Except Failure SavedGame :=
  if path = "" || !d.holds (Disk.absolute here path) then .error (.missing path)
  else
    match d.readText? (Disk.absolute here path) with
    | some text => read path text
    | none => .error (.unreadable path)

/-- The disk after a play of a story is saved in a file. -/
def save (d : Disk) (here path storyId : String) (p : Play) : Except Failure Disk :=
  match p.snapshot with
  | .error cause => .error (.refused cause)
  | .ok snapshot =>
    match d.writeText? (Disk.absolute here path) (write ⟨currentSchema, storyId, snapshot⟩) with
    | some d => .ok d
    | none => .error (.unwritable path)

end SavedGame
end Gamebook
