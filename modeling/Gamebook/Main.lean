import Gamebook.Cli.Run

/-!
# The program

The outer layer: it reads from the disk what a command may look at, runs the command, and writes
what has changed. The line player reads its input line by line, so that it can be used by hand.
-/

namespace Gamebook.Main

/-- The location that an absolute path names. -/
def locationOf (path : String) : Location :=
  (Disk.names path).foldl
    (fun l n => if n = "" ∨ n = "." then l else if n = ".." then l.dropLast else l ++ [n]) []

/-- Adds a file to what is known of the disk. -/
def addFile (d : Disk) (path : String) : IO Disk := do
  let bytes ← IO.FS.readBinFile path
  let content := match String.fromUTF8? bytes with
    | some s => Content.text s
    | none => Content.other
  return { d with files := d.files.insert (locationOf path) content }

/-- Adds a file, or a folder and all that is in it. -/
partial def addAll (d : Disk) (path : String) : IO Disk := do
  let found ← (some <$> IO.FS.realPath path) <|> pure none
  match found with
  | none => return d
  | some real =>
    if ← real.isDir then
      let mut d := { d with folders := locationOf path :: d.folders }
      for entry in ← real.readDir do
        d ← addAll d (path ++ "/" ++ entry.fileName)
      return d
    else if ← real.pathExists then addFile d path
    else return d

/-- Adds what stands on the way to a path: folders, and a file if one is there. -/
def addWay (d : Disk) (path : String) : IO Disk := do
  let l := locationOf path
  let mut d := d
  for n in List.range (l.length + 1) do
    let step := "/" ++ "/".intercalate (l.take n)
    let found ← (some <$> IO.FS.realPath step) <|> pure none
    if let some real := found then
      if ← real.isDir then d := { d with folders := l.take n :: d.folders }
      else if ← real.pathExists then d ← addFile d step
  return d

/-- What a command looks at: whole folders, and single files. -/
def sources : Cli.Command → List String × List String
  | .start storyDir stateOut => ([storyDir], [stateOut])
  | .choose stateIn _ stateOut => ([], [stateIn, stateOut])
  | .goOn stateIn stateOut => ([], [stateIn, stateOut])
  | .play storyDir stateFile => ([storyDir], [stateFile.getD Cli.usualSavePath])
  | .check storyDir _ => ([storyDir], [])
  | .render storyDir _ _ => ([storyDir], [])
  | .graph storyDir => ([storyDir], [])

/-- The folder of the story that a command's saved game is one of. -/
def savedStory? (d : Disk) (here : String) : Cli.Command → Option String
  | .choose stateIn _ _ | .goOn stateIn _ => do
    let g ← (SavedGame.load d here stateIn).toOption
    let path ← Text.after? LoadedStory.scheme.toList g.storyId.toList
    some (String.ofList path)
  | _ => none

/-- The part of the disk that a command looks at. -/
def lookAt (here : String) (c : Cli.Command) : IO Disk := do
  let (folders, files) := sources c
  let mut d := Disk.blank
  for path in files do
    d ← addWay d (Disk.absolute here path)
  for path in folders ++ (savedStory? d here c).toList do
    d ← addAll d (Disk.absolute here path)
  return d

/-- Writes what differs between two disks; the error is the path that cannot be written. -/
def commit (before after : Disk) : IO (Except String Unit) := do
  for (l, content) in after.files.entries do
    if before.files.get? l ≠ some content then
      let path := "/" ++ "/".intercalate l
      if let .text s := content then
        try
          IO.FS.createDirAll ("/" ++ "/".intercalate l.dropLast)
          IO.FS.writeFile path s
        catch _ => return .error path
  return .ok ()

/-- Reads bytes up to a line feed or the end of the input. -/
partial def readBytes (input : IO.FS.Stream) (bytes : ByteArray) : IO ByteArray := do
  let next ← input.read 1
  if next.isEmpty then return bytes
  else if next.get! 0 = 10 then return bytes.push 10
  else readBytes input (bytes ++ next)

/-- Reads a line, unless the input has ended. -/
def readLine? (input : IO.FS.Stream) : IO (Option Terminal.Line) := do
  let bytes ← readBytes input .empty
  if bytes.isEmpty then return none
  match String.fromUTF8? bytes with
  | some s => return some (.text s.toList)
  | none => return some .garbled

/-- Prints a text at once. -/
def say (output : IO.FS.Stream) (t : Text) : IO Unit := do
  output.putStr (String.ofList t)
  output.flush

/-- Prints a fault and gives the exit code for it. -/
def fail (output : IO.FS.Stream) (f : Fault) : IO UInt32 := do
  say output (Cli.unlines (Cli.faultLines f))
  return 1

/-- Goes on with a session until it ends. -/
partial def converse (s : Terminal.Session) (st : Terminal.State) (input output : IO.FS.Stream) :
    IO UInt32 := do
  match ← readLine? input with
  | none => return 0
  | some line =>
    let disk ← addWay st.disk (Disk.absolute s.here s.savePath)
    let (next, said, status) := s.step { st with disk } line
    match ← commit disk next.disk with
    | .error path => fail output (SavedGame.Failure.unwritable path).report
    | .ok () =>
      say output said
      match status with
      | .waiting => converse s next input output
      | .over => return 0
      | .failed f => fail output f

/-- Runs the line player. -/
def playLines (d : Disk) (here storyDir : String) (stateFile : Option String)
    (input output : IO.FS.Stream) : IO UInt32 := do
  match Cli.openSession d here storyDir stateFile with
  | .error f => fail output f
  | .ok (s, p) =>
    let (st, said, status) := s.opening p d
    say output said
    match status with
    | .waiting => converse s st input output
    | _ => return 0

/-- Runs an invocation. -/
def perform (here : String) (i : Cli.Invocation) : IO UInt32 := do
  let input ← IO.getStdin
  let output ← IO.getStdout
  let d ← lookAt here i.command
  match i.command, i.badFilter? with
  | .play storyDir stateFile, none => playLines d here storyDir stateFile input output
  | _, _ =>
    let o := i.run d here []
    match ← commit d o.disk with
    | .error path => fail output (SavedGame.Failure.unwritable path).report
    | .ok () =>
      say output o.printed
      return o.code.toUInt32

end Gamebook.Main

/-- The program. -/
def main (args : List String) : IO UInt32 := do
  match Gamebook.Cli.Invocation.ofArguments args with
  | .ok i => Gamebook.Main.perform (toString (← IO.currentDir)) i
  | .error .help =>
    Gamebook.Main.say (← IO.getStdout) (Gamebook.Cli.unlines Gamebook.Cli.usage)
    return 0
  | .error .usage =>
    Gamebook.Main.say (← IO.getStderr) (Gamebook.Cli.unlines Gamebook.Cli.usage)
    return 2
