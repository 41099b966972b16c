import Gamebook.SortedMap
import Gamebook.Text.Line

/-!
# Disks

What the program sees of a disk: text files, files that hold no text, and folders. Every folder on
the way to a file or folder is there as well. Paths are read name by name from a folder on: an empty
name and a single dot stay where they are, two dots go one folder up, and nothing is found behind a
file.
-/

namespace Gamebook

/-- A place on a disk: the names of the folders on the way to it and its own, outermost first. -/
abbrev Location := List String

/-- What a file holds; `other` is no text. -/
inductive Content where
  | text (s : String)
  | other
deriving DecidableEq

/-- The files and folders of a disk. -/
structure Disk where
  files : SortedMap Location Content
  folders : List Location

namespace Disk

/-- The disk with nothing on it. -/
def blank : Disk := ⟨.empty, []⟩

/-- Whether `outer` is a folder on the way to `inner`. -/
def isAbove (outer inner : Location) : Bool := outer.isPrefixOf inner && outer != inner

/-- Whether there is a folder at a location. -/
def isFolder (d : Disk) (l : Location) : Bool :=
  l == [] || d.folders.any (fun f => l.isPrefixOf f) || d.files.keys.any (isAbove l)

/-- Whether there is a file at a location. -/
def isFile (d : Disk) (l : Location) : Bool := d.files.contains l

/-- The names that a written path is made of. -/
def names (path : String) : List String := (Text.splitOn '/' path.toList).map String.ofList

/-- A path made absolute by putting it behind the folder `here`, unless it is absolute. -/
def absolute (here path : String) : String :=
  if path.toList.head? = some '/' then path
  else if here.toList.getLast? = some '/' then here ++ path
  else here ++ "/" ++ path

/-- The place that names lead to from a folder. -/
def walk (d : Disk) (l : Location) : List String → Option Location
  | [] => some l
  | n :: ns =>
    if !d.isFolder l then none
    else if n = "" ∨ n = "." then d.walk l ns
    else if n = ".." then d.walk l.dropLast ns
    else d.walk (l ++ [n]) ns

/-- The file or folder at an absolute path. -/
def locate? (d : Disk) (path : String) : Option Location :=
  (d.walk [] (names path)).filter fun l => d.isFile l || d.isFolder l

/-- Whether there is something at an absolute path. -/
def holds (d : Disk) (path : String) : Bool := (d.locate? path).isSome

/-- The text of the file at an absolute path. -/
def readText? (d : Disk) (path : String) : Option String := do
  match d.files.get? (← d.locate? path) with
  | some (.text s) => some s
  | _ => none

/-- The place that names lead to when the folders missing on the way are made; `none` if a file is
in the way. -/
def makeFolders (d : Disk) (l : Location) : List String → Option (Disk × Location)
  | [] => some (d, l)
  | n :: ns =>
    if n = "" ∨ n = "." then d.makeFolders l ns
    else if n = ".." then d.makeFolders l.dropLast ns
    else if d.isFile (l ++ [n]) then none
    else if d.isFolder (l ++ [n]) then d.makeFolders (l ++ [n]) ns
    else makeFolders { d with folders := (l ++ [n]) :: d.folders } (l ++ [n]) ns

/-- The disk after a text is written to the file at an absolute path, with the folders that are
missing; `none` if the path names no place for a file. -/
def writeText? (d : Disk) (path text : String) : Option Disk := do
  let name ← (names path).getLast?
  if name ∈ ["", ".", ".."] then none
  else
    let (made, folder) ← d.makeFolders [] (names path).dropLast
    let l := folder ++ [name]
    if made.isFolder l then none
    else some { made with files := made.files.insert l (.text text) }

end Disk
end Gamebook
