import Gamebook.Cli.SavedGame
import Gamebook.Cli.Source
import Gamebook.Terminal.PlainText

/-!
# The line player

A session prints the page where the play stands and a prompt, and takes one line at a time: a
command, which starts with a colon, or a move, which is an empty line or one letter. A line is read
as an answer to the page printed last. A session ends with the play, at `:quit`, at the end of the
input, or when a game cannot be saved or loaded.
-/

namespace Gamebook.Terminal

/-- A line of input, without its line feed; `garbled` is no text. -/
inductive Line where
  | text (t : Text)
  | garbled
deriving DecidableEq

/-- What does not change during a session. -/
structure Session where
  story : LoadedStory
  savePath : String
  here : String

/-- Where a session stands: the play, the disk, and what was shown last. -/
structure State where
  play : Play
  disk : Disk
  shown : Output

/-- Whether a session goes on. -/
inductive Status where
  | waiting
  | over
  | failed (fault : Fault)
deriving DecidableEq

/-- What a line leads to: something said at the same page, a page shown anew, or the end. -/
inductive Reply where
  | stay (said : Text)
  | turn (said : Text)
  | quit (said : Text)
  | fail (fault : Fault)

/-- The commands. -/
def help : String := "commands: :help :save :load :back :restart :quit"

/-- A text as a line. -/
def line (t : Text) : Text := t ++ ['\n']

/-- What is shown before a line is read. -/
def prompt : Text := "> ".toList

/-- The line for a sound. -/
def soundLine : Sound → String
  | .music file loop => "(music: " ++ file ++ (if loop then ", looped" else "") ++ ")"
  | .sfx file => "(sfx: " ++ file ++ ")"
  | .ambient file => "(ambient: " ++ file ++ ")"
  | .stop channel => "(stop: " ++ channel.word ++ ")"

/-- The line for a directive, if it is a sound. -/
def audioLine? : Directive → Option String
  | .sound s => some (soundLine s)
  | _ => none

/-- The line that says how to go on from a page without choices. -/
def waitingLine? (v : View) : Option String :=
  if v.isEnding then some "[THE END] (press enter)"
  else if v.canContinue then some "(press enter to continue)"
  else none

/-- A page as it is shown. -/
def viewText (v : View) : Text :=
  line [] ++ line ("-- page " ++ toString v.page ++ " --").toList
    ++ (v.audio.filterMap audioLine?).flatMap (fun l => line l.toList)
    ++ line (plainText v.html)
    ++ v.offers.flatMap (fun o => line ("  [" ++ o.letter.toString ++ "] " ++ o.text).toList)
    ++ (waitingLine? v).toList.flatMap fun l => line l.toList

/-- What is printed of a page, with a prompt, or of the end. -/
def present : Output → Text × Status
  | .page v => (viewText v ++ prompt, .waiting)
  | .ended => (line [] ++ line "[END]".toList, .over)

/-- Shows where the play stands, behind something said. -/
def State.turn (st : State) (said : Text) : State × Text × Status :=
  let now := st.play.output
  ({ st with shown := now }, said ++ (present now).1, (present now).2)

/-- What a line that is no command does: an empty line goes on from a page without choices, a letter
takes a choice from a page that has some. `none` for a line that is no move at the page. -/
def move? (v : View) (t : Text) : Option Move :=
  match t with
  | [] => if v.isEnding || v.canContinue then some .goOn else none
  | [c] => if c.isAlpha && !v.offers.isEmpty then some (.choose c) else none
  | _ => none

/-- What is said to a line that is neither a command nor a move. -/
def noMove : String := "pick one of the listed letters"

namespace Session

/-- Takes a move at a page. -/
def takeMove (s : Session) (st : State) (v : View) (t : Text) : State × Reply :=
  match move? v t with
  | none => (st, .stay (line noMove.toList))
  | some m =>
    match s.story.stage.perform st.play m with
    | (next, none) => ({ st with play := next }, .turn [])
    | (_, some cause) => (st, .stay (line cause.report.message.toList))

/-- Saves the game. -/
def save (s : Session) (st : State) : State × Reply :=
  match SavedGame.save st.disk s.here s.savePath s.story.id st.play with
  | .ok d => ({ st with disk := d }, .stay (line ("saved: " ++ s.savePath).toList))
  | .error cause => (st, .fail cause.report)

/-- The play in the saved game, which must be one of this story. -/
def loadPlay (s : Session) (d : Disk) : Except SavedGame.Failure Play := do
  let g ← SavedGame.load d s.here s.savePath
  if g.storyId ≠ s.story.id then .error (.otherStory s.story.id g.storyId)
  else
    match s.story.stage.resume g.snapshot with
    | .ok p => .ok p
    | .error cause => .error (.refused cause)

/-- Goes on with the saved game. -/
def load (s : Session) (st : State) : State × Reply :=
  match s.loadPlay st.disk with
  | .ok p => ({ st with play := p }, .turn (line ("loaded: " ++ s.savePath).toList))
  | .error cause => (st, .fail cause.report)

/-- Goes back a page. -/
def back (s : Session) (st : State) : State × Reply :=
  match s.story.stage.back st.play with
  | .ok p => ({ st with play := p }, .turn [])
  | .error cause => (st, .stay (line cause.report.message.toList))

/-- Starts the story anew. -/
def restart (s : Session) (st : State) : State × Reply :=
  let p := s.story.stage.start
  if p.isEnded then (st, .fail Refusal.noRoot.report)
  else ({ st with play := p }, .turn (line "restarted".toList))

/-- What a line without the blanks around it leads to at a page. -/
def reply (s : Session) (st : State) (v : View) (t : Text) : State × Reply :=
  match String.ofList t with
  | ":help" => (st, .stay (line help.toList))
  | ":save" => s.save st
  | ":load" => s.load st
  | ":back" => s.back st
  | ":restart" => s.restart st
  | ":quit" => (st, .quit (line "bye".toList))
  | _ => s.takeMove st v t

/-- The report of input that is no text. -/
def garbledInput : Fault := { code := "TUI_IO", message := "Input holds no text." }

/-- Takes one line: where the session stands then, what is printed, and whether it goes on. -/
def step (s : Session) (st : State) (l : Line) : State × Text × Status :=
  match l, st.shown with
  | .garbled, _ => (st, [], .failed garbledInput)
  | .text _, .ended => (st, [], .over)
  | .text t, .page v =>
    match s.reply st v (Text.trim t) with
    | (st, .stay said) => (st, said ++ prompt, .waiting)
    | (st, .turn said) => st.turn said
    | (st, .quit said) => (st, said, .over)
    | (st, .fail fault) => (st, [], .failed fault)

/-- Takes lines until the session or the input ends. -/
def run (s : Session) (st : State) : List Line → State × Text × Status
  | [] => (st, [], .over)
  | l :: ls =>
    match s.step st l with
    | (st, said, .waiting) =>
      let (st, more, status) := s.run st ls
      (st, said ++ more, status)
    | ended => ended

/-- The session at its start, with what is printed first. -/
def opening (s : Session) (p : Play) (d : Disk) : State × Text × Status :=
  State.turn ⟨p, d, p.output⟩ (line s.story.title.toList ++ line help.toList)

/-- A session from its start, with all the lines that it is given. -/
def play (s : Session) (p : Play) (d : Disk) (ls : List Line) : State × Text × Status :=
  match s.opening p d with
  | (st, said, .waiting) =>
    let (st, more, status) := s.run st ls
    (st, said ++ more, status)
  | ended => ended

end Session
end Gamebook.Terminal
