import Gamebook.Cli.Arguments
import Gamebook.Cli.LogFilter
import Gamebook.Cli.Report
import Gamebook.Terminal.Session

/-!
# Running a command

A command is run on a disk and with the lines of the input, and gives an exit code, what is printed,
and the disk afterwards. An agent's command plays one move of a saved game and saves it again; a
move that is refused or ends the story saves nothing.
-/

namespace Gamebook.Cli

/-- What a command has done. -/
structure Outcome where
  code : Nat
  printed : Text
  disk : Disk

/-- Lines as a text. -/
def unlines (ls : List String) : Text := ls.flatMap fun l => l.toList ++ ['\n']

/-- What a command has done that only prints. -/
def printing (d : Disk) (code : Nat) (ls : List String) : Outcome := ⟨code, unlines ls, d⟩

/-- What a command has done that failed. -/
def failing (d : Disk) (f : Fault) : Outcome := printing d 1 (faultLines f)

/-- The story in a folder, or the report of why there is none. -/
def loadStory (d : Disk) (here path : String) : Except Fault LoadedStory :=
  (LoadedStory.load d here path).mapError LoadedStory.Failure.report

/-- The play of a story at its first page. -/
def startPlay (s : LoadedStory) : Except Fault Play :=
  if s.stage.start.isEnded then .error Refusal.noRoot.report else .ok s.stage.start

/-- Saves a play that goes on, and prints where it stands. -/
def stopAt (d : Disk) (here stateOut storyId : String) (p : Play) : Except Fault Outcome :=
  match p.output with
  | .ended => .ok (printing d 0 (stopLines .ended none))
  | .page v => do
    let d ← (SavedGame.save d here stateOut storyId p).mapError SavedGame.Failure.report
    .ok (printing d 0 (stopLines (.page v) (some stateOut)))

/-- Plays one move of a saved game. -/
def transition (d : Disk) (here stateIn stateOut : String)
    (move : Stage → Play → Except Refusal Play) : Except Fault Outcome := do
  let g ← (SavedGame.load d here stateIn).mapError SavedGame.Failure.report
  let s ← (LoadedStory.loadReference d here g.storyId).mapError LoadedStory.Failure.report
  let p ← (s.stage.resume g.snapshot).mapError Refusal.report
  let next ← (move s.stage p).mapError Refusal.report
  stopAt d here stateOut g.storyId next

/-- The variables that an option gives. -/
def readVariables (raw : Option String) : Except Fault Variables :=
  match raw with
  | none => .ok .empty
  | some raw =>
    match (Json.parse? raw).bind Variables.ofJson? with
    | some vars => .ok vars
    | none =>
      .error { code := "CLI_VARS_INVALID", message := "Not an object of variables: " ++ raw }

/-- Where the line player saves unless something else is said. -/
def usualSavePath : String := ".branchpage/save.json"

/-- The session of a line player and the play that it starts with. -/
def openSession (d : Disk) (here storyDir : String) (stateFile : Option String) :
    Except Fault (Terminal.Session × Play) := do
  let s ← loadStory d here storyDir
  .ok (⟨s, stateFile.getD usualSavePath, here⟩, ← startPlay s)

/-- What a session has done. -/
def sessionOutcome (ended : Terminal.State × Text × Terminal.Status) : Outcome :=
  match ended with
  | (st, printed, .failed f) => ⟨1, printed ++ unlines (faultLines f), st.disk⟩
  | (st, printed, _) => ⟨0, printed, st.disk⟩

/-- Runs a command in the folder `here`. -/
def Command.run (d : Disk) (here : String) (input : List Terminal.Line) :
    Command → Except Fault Outcome
  | .start storyDir stateOut => do
    let s ← loadStory d here storyDir
    stopAt d here stateOut s.id (← startPlay s)
  | .choose stateIn letter stateOut =>
    transition d here stateIn stateOut fun stage p => stage.choose p letter
  | .goOn stateIn stateOut => transition d here stateIn stateOut fun stage p => stage.goOn p
  | .play storyDir stateFile => do
    let (session, p) ← openSession d here storyDir stateFile
    .ok (sessionOutcome (session.play p d input))
  | .check storyDir strict => do
    let s ← loadStory d here storyDir
    let code := if fails s.story.diagnostics strict then 1 else 0
    .ok (printing d code (checkLines s.story))
  | .render storyDir page vars => do
    let s ← loadStory d here storyDir
    let id ← (PageId.parse page).mapError PageId.Invalid.report
    let vars ← readVariables vars
    match s.story.renderPage? id vars with
    | some r => .ok (printing d 0 [r.toJson.pretty])
    | none => .error (Story.pageNotFound id)
  | .graph storyDir => do
    let s ← loadStory d here storyDir
    .ok (printing d 0 (mapLines s.story.pages.storyMap))

/-- The report of a log filter that is none. -/
def badLogFilter (filter : String) : Fault :=
  { code := "CLI_LOG_LEVEL", message := LogFilter.invalid filter }

/-- The log filter of an invocation, if it is none that can be used. -/
def Invocation.badFilter? (i : Invocation) : Option String :=
  i.logFilter.filter fun filter => !LogFilter.isValid filter.toList

/-- Runs an invocation in the folder `here`. -/
def Invocation.run (d : Disk) (here : String) (input : List Terminal.Line) (i : Invocation) :
    Outcome :=
  match i.badFilter? with
  | some filter => failing d (badLogFilter filter)
  | none =>
    match i.command.run d here input with
    | .ok outcome => outcome
    | .error f => failing d f

/-- How the program is called. -/
def usage : List String :=
  ["Usage: branchpage [--log-level FILTER] COMMAND",
    "  agent start --story-dir DIR --state-out FILE",
    "  agent choose --state-in FILE --choice LETTER --state-out FILE",
    "  agent continue --state-in FILE --state-out FILE",
    "  tui --story-dir DIR [--state-file FILE]",
    "  check --story-dir DIR [--strict]",
    "  render --story-dir DIR --page ID [--vars JSON]",
    "  graph --story-dir DIR"]

/-- Runs the program with arguments; arguments that ask for no command give code 2. -/
def run (d : Disk) (here : String) (args : List String) (input : List Terminal.Line) : Outcome :=
  match Invocation.ofArguments args with
  | .ok i => i.run d here input
  | .error .help => printing d 0 usage
  | .error .usage => printing d 2 []

end Gamebook.Cli
