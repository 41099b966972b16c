import Gamebook.Disk.Folder
import Gamebook.Story.Files

/-!
# Stories on a disk

A story is named by the folder that it is in. Its title, where the manifest gives none, is the name
of the folder.
-/

namespace Gamebook

/-- A story and the name under which games of it are saved. -/
structure LoadedStory where
  id : String
  title : String
  story : Story

namespace LoadedStory

/-- Why a story cannot be loaded. -/
inductive Failure where
  | notFound (path : String)
  | notAFolder (path : String)
  | unreadable (file : Location)
  | noPages (path : String)
  | badReference (reference : String)
  | unloadable (cause : Unloadable)
deriving DecidableEq

namespace Failure

/-- The report of a failure. -/
def report : Failure → Fault
  | notFound path =>
    { code := "CLI_SOURCE_NOT_FOUND", message := "story-dir does not exist: " ++ path }
  | notAFolder path =>
    { code := "CLI_SOURCE_NOT_DIR", message := "story-dir is not a directory: " ++ path }
  | unreadable file =>
    { code := "CLI_SOURCE_READ", message := "File holds no text: " ++ "/".intercalate file }
  | noPages path =>
    { code := "CLI_SOURCE_EMPTY", message := "No .txt/.json page files under " ++ path }
  | badReference reference =>
    { code := "CLI_SOURCE_REF_INVALID", message := "Unsupported story ref: " ++ reference }
  | unloadable cause => cause.report

end Failure

/-- What the name of a story in a folder starts with. -/
def scheme : String := "story-dir:"

/-- The last name of a path, if it ends in one. -/
def folderName? (path : String) : Option String :=
  ((Disk.names path).filter fun n => n ≠ "" ∧ n ≠ ".").getLast?.filter (· ≠ "..")

/-- The title of a story in a folder. -/
def titleOf (s : Story) (path : String) : String :=
  s.title?.getD ("Story " ++ (folderName? path).getD "unknown")

/-- The story in a folder; `here` is the folder that a relative path starts from. -/
def load (d : Disk) (here path : String) : Except Failure LoadedStory :=
  let path := Disk.absolute here path
  match d.locate? path with
  | none => .error (.notFound path)
  | some top =>
    if !d.isFolder top then .error (.notAFolder path)
    else
      match StoryFolder.read d top with
      | .error file => .error (.unreadable file)
      | .ok f =>
        if f.files.isEmpty then .error (.noPages path)
        else
          match Story.ofFiles f.files f.assets with
          | .error cause => .error (.unloadable cause)
          | .ok s => .ok ⟨scheme ++ path, titleOf s path, s⟩

/-- The story of a name. -/
def loadReference (d : Disk) (here reference : String) : Except Failure LoadedStory :=
  match Text.after? scheme.toList reference.toList with
  | some path => load d here (String.ofList path)
  | none => .error (.badReference reference)

/-- The stage on which the story is played. -/
def stage (s : LoadedStory) : Stage := s.story.stage .story .empty

end LoadedStory
end Gamebook
