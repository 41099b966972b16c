import Gamebook.Text.Line

/-!
# Arguments

What the command line asks for. Options are written `--name value` or `--name=value` and each may
stand once; a value behind a space does not start with a hyphen, unless it is one.
-/

namespace Gamebook.Cli

/-- What the program can be asked to do. -/
inductive Command where
  | start (storyDir stateOut : String)
  | choose (stateIn : String) (letter : Char) (stateOut : String)
  | goOn (stateIn stateOut : String)
  | play (storyDir : String) (stateFile : Option String)
  | check (storyDir : String) (strict : Bool)
  | render (storyDir page : String) (vars : Option String)
  | graph (storyDir : String)
deriving DecidableEq

/-- A command and the log filter that it is given with. -/
structure Invocation where
  logFilter : Option String
  command : Command
deriving DecidableEq

/-- Why no command is run. -/
inductive Stop where
  | help
  | usage
deriving DecidableEq

/-- The options given, by name; a switch has no text. -/
abbrev Given := List (String × String)

/-- Whether an argument is no option. -/
def isBare (arg : String) : Bool := arg = "-" || arg.toList.head? ≠ some '-'

/-- The name of an option and the value attached to it. -/
def longOption? (arg : String) : Option (String × Option String) := do
  let r ← Text.after? ['-', '-'] arg.toList
  let name := String.ofList (r.takeWhile (· ≠ '='))
  match r.dropWhile (· ≠ '=') with
  | '=' :: value => some (name, some (String.ofList value))
  | _ => some (name, none)

/-- Adds an option, which must not be there yet. -/
def add (given : Given) (name value : String) : Except Stop Given :=
  if (given.lookup name).isSome then .error .usage else .ok ((name, value) :: given)

/-- The options that arguments start with, and the arguments from the first on that is none. -/
def readOptions (valued switches : List String) (given : Given) :
    List String → Except Stop (Given × List String)
  | [] => .ok (given, [])
  | arg :: args =>
    if arg = "--" then if args = [] then .ok (given, []) else .error .usage
    else if isBare arg then .ok (given, arg :: args)
    else
      match longOption? arg with
      | none => .error (if arg = "-h" then .help else .usage)
      | some (name, attached) =>
        if name ∈ valued then
          match attached, args with
          | some value, args => do readOptions valued switches (← add given name value) args
          | none, value :: args =>
            if isBare value then do readOptions valued switches (← add given name value) args
            else .error .usage
          | none, [] => .error .usage
        else if attached.isSome then .error .usage
        else if name = "help" then .error .help
        else if name ∈ switches then do readOptions valued switches (← add given name "") args
        else .error .usage
termination_by args => args.length

/-- The option that every command takes. -/
def logLevel : String := "log-level"

/-- The value of an option that must be given. -/
def need (given : Given) (name : String) : Except Stop String :=
  match given.lookup name with
  | some value => .ok value
  | none => .error .usage

/-- A value that must be one character. -/
def oneCharacter (value : String) : Except Stop Char :=
  match value.toList with
  | [c] => .ok c
  | _ => .error .usage

/-- A command that takes options: those with a value, the switches, and what the options make. -/
structure Form where
  valued : List String
  switches : List String
  make : Given → Except Stop Command

/-- The commands of an agent. -/
def agentForms : List (String × Form) :=
  [("start", ⟨["story-dir", "state-out"], [], fun g => do
      return .start (← need g "story-dir") (← need g "state-out")⟩),
    ("choose", ⟨["state-in", "choice", "state-out"], [], fun g => do
      return .choose (← need g "state-in") (← oneCharacter (← need g "choice"))
        (← need g "state-out")⟩),
    ("continue", ⟨["state-in", "state-out"], [], fun g => do
      return .goOn (← need g "state-in") (← need g "state-out")⟩)]

/-- The other commands. -/
def forms : List (String × Form) :=
  [("tui", ⟨["story-dir", "state-file"], [], fun g => do
      return .play (← need g "story-dir") (g.lookup "state-file")⟩),
    ("check", ⟨["story-dir"], ["strict"], fun g => do
      return .check (← need g "story-dir") (g.lookup "strict").isSome⟩),
    ("render", ⟨["story-dir", "page", "vars"], [], fun g => do
      return .render (← need g "story-dir") (← need g "page") (g.lookup "vars")⟩),
    ("graph", ⟨["story-dir"], [], fun g => do return .graph (← need g "story-dir")⟩)]

/-- The command of a form. -/
def readForm (form : Form) (outer : Option String) (args : List String) :
    Except Stop Invocation := do
  let (given, rest) ← readOptions (logLevel :: form.valued) form.switches [] args
  if rest ≠ [] then .error .usage
  return ⟨given.lookup logLevel <|> outer, ← form.make given⟩

/-- What comes of asking for help on an agent's command, or on all of them. -/
def helpOnAgent : List String → Stop
  | [] => .help
  | [name] => if name = "help" ∨ (agentForms.lookup name).isSome then .help else .usage
  | _ => .usage

/-- What comes of asking for help on a command, or on all of them. -/
def helpOn : List String → Stop
  | [] => .help
  | "agent" :: names => helpOnAgent names
  | [name] => if name = "help" ∨ (forms.lookup name).isSome then .help else .usage
  | _ => .usage

/-- The command of a list that arguments name, after options that any command takes. -/
def readNamed (help : List String → Stop)
    (find : String → List String → Option String → Except Stop Invocation)
    (outer : Option String) (args : List String) : Except Stop Invocation := do
  match ← readOptions [logLevel] [] [] args with
  | (given, name :: rest) =>
    if name = "help" then .error (help rest) else find name rest (given.lookup logLevel <|> outer)
  | (_, []) => .error .usage

/-- The command of an agent that arguments ask for. -/
def readAgent (outer : Option String) (args : List String) : Except Stop Invocation :=
  readNamed helpOnAgent
    (fun name rest outer =>
      match agentForms.lookup name with
      | some form => readForm form outer rest
      | none => .error .usage)
    outer args

/-- The command that arguments ask for. -/
def Invocation.ofArguments (args : List String) : Except Stop Invocation :=
  readNamed helpOn
    (fun name rest outer =>
      if name = "agent" then readAgent outer rest
      else
        match forms.lookup name with
        | some form => readForm form outer rest
        | none => .error .usage)
    none args

end Gamebook.Cli
