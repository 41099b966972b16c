import Gamebook.Json.Printer
import Gamebook.Story.Basic
import Gamebook.Story.Record

/-!
# Stories as files

A story is kept as one file per page, named by the page's id, and a manifest. The end of a file's
name says what it holds: text as an author writes it, or a stored record. `Story.ofFiles` reads the
files in the order of their paths; `Story.toFiles` writes every page as text.
-/

namespace Gamebook

/-- What a file of a story holds, by its name. -/
inductive FileRole where
  | manifest
  | source (id : PageId)
  | record (id : PageId)
  | misnamed
  | other
deriving DecidableEq

namespace FileRole

/-- The name of the manifest. -/
def manifestName : String := "story.json"

/-- The name of a file without the folders it is in. -/
def fileName (path : Text) : Text := (path.reverse.takeWhile (· ≠ '/')).reverse

/-- A name without its ending, if it has that ending. -/
def stem? (ending : String) (name : Text) : Option Text :=
  if ending.toList.isSuffixOf name then some (name.take (name.length - ending.toList.length))
  else none

/-- What a file holds. Text must be named by a page id; a record that is not is none of the story.
-/
def ofPath (path : String) : FileRole :=
  let name := fileName path.toList
  if name = manifestName.toList then manifest
  else
    match stem? ".txt" name, stem? ".json" name with
    | some stem, _ =>
      match PageId.parse? (String.ofList stem) with
      | some id => source id
      | none => misnamed
    | none, some stem =>
      match PageId.parse? (String.ofList stem) with
      | some id => record id
      | none => other
    | none, none => other

end FileRole

/-- Why files are no story. -/
inductive Unloadable where
  | manifest
  | misnamed (path : String)
  | unreadable
  | record (id : PageId) (cause : PageRecord.Invalid)
  | duplicate (id : PageId) (first second : String)
deriving DecidableEq

namespace Unloadable

/-- The report of files that are no story. -/
def report : Unloadable → Fault
  | manifest => ⟨"API_MANIFEST_INVALID", FileRole.manifestName ++ " is invalid", none⟩
  | misnamed path =>
    ⟨"API_PAGE_FILE_NAME", "Page file \"" ++ path ++ "\" is not named after a page id.", none⟩
  | unreadable => PageRecord.Invalid.unreadable.report none
  | record id cause => cause.report (some id)
  | duplicate id first second =>
    ⟨"API_PAGE_DUPLICATE", "Page " ++ toString id ++ " is defined by both \"" ++ first
      ++ "\" and \"" ++ second ++ "\".", some id⟩

end Unloadable

namespace Story

/-- What has been read of a story: each page with the file it comes from. -/
structure Draft where
  pages : SortedMap PageId (String × Page)
  manifest : Option Manifest

/-- The page of a stored record's text. -/
def pageOfRecord (id : PageId) (content : String) : Except Unloadable Page :=
  match PageRecord.ofText content with
  | .error _ => .error .unreadable
  | .ok record =>
    match record.page with
    | .ok page => .ok page
    | .error cause => .error (.record id cause)

namespace Draft

/-- Adds the page of a file. -/
def addPage (d : Draft) (path : String) (id : PageId) (page : Page) : Except Unloadable Draft :=
  match d.pages.get? id with
  | some (first, _) => .error (.duplicate id first path)
  | none => .ok { d with pages := d.pages.insert id (path, page) }

/-- Reads one file. -/
def addFile (d : Draft) (file : String × String) : Except Unloadable Draft :=
  let (path, content) := file
  match FileRole.ofPath path with
  | .manifest =>
    match (Json.parse? content).bind Manifest.ofJson? with
    | some m => .ok { d with manifest := some m }
    | none => .error .manifest
  | .source id => d.addPage path id (Page.ofSource content)
  | .record id => do d.addPage path id (← pageOfRecord id content)
  | .misnamed => .error (.misnamed path)
  | .other => .ok d

/-- The pages read, those that the manifest lists made endings. -/
def finish (d : Draft) : Pages :=
  d.pages.mapValues fun id (_, page) =>
    if d.manifest.any fun m => m.endings.contains id then { page with isEnding := true } else page

end Draft

/-- The story that files hold. -/
def ofFiles (files : SortedMap String String) (assets : List String) : Except Unloadable Story := do
  let d ← files.entries.foldlM Draft.addFile (⟨.empty, none⟩ : Draft)
  .ok ⟨d.finish, SortedMap.ofList (assets.map (·, ())), d.manifest⟩

/-- The text of a page whose choice lines are the page's choices: the text itself if it offers them
already, else the prose with the choices behind it. -/
def sourceOf (page : Page) : Text :=
  let (offered, prose) := Choice.split page.content.toList
  if page.choices = [] ∨ offered = page.choices then page.content.toList
  else
    let body := Text.dropEndWhile (· = '\n') prose
    (if body = [] then [] else body ++ ['\n']) ++ Text.join ['\n'] (page.choices.map Choice.toLine)

/-- The name of a page's file. -/
def sourceName (id : PageId) : String := toString id ++ ".txt"

/-- The manifest of the story's files: it lists the endings, and there is one if there are any. -/
def exportedManifest (s : Story) : Option Manifest :=
  let endings := s.pages.filter fun _ page => page.isEnding
  if s.manifest.isSome ∨ !endings.isEmpty then
    some { s.manifest.getD default with endings := endings.mapValues fun _ _ => () }
  else none

/-- The files of the story. -/
def toFiles (s : Story) : SortedMap String String :=
  let pages := s.pages.entries.map fun (id, page) => (sourceName id, String.ofList (sourceOf page))
  let manifest := s.exportedManifest.toList.map fun m =>
    (FileRole.manifestName, m.toJson.pretty)
  SortedMap.ofList (pages ++ manifest)

end Story
end Gamebook
