import Gamebook.Disk.Basic
import Gamebook.Text.Replace

/-!
# Story folders

The files of a story in a folder: text files and data files are read, wherever in the folder they
are, and the files below `assets` are known by name alone.
-/

namespace Gamebook

/-- What a folder holds of a story: the texts of its files by their paths in the folder, and the
names of its assets. -/
structure StoryFolder where
  files : SortedMap String String
  assets : List String

namespace StoryFolder

/-- The folder of the assets. -/
def assetFolder : String := "assets"

/-- The path of a file in a folder, whose location the names are behind. A backslash separates names
like a slash. -/
def relativePath (behind : List String) : Text :=
  (Text.join ['/'] (behind.map String.toList)).map fun c => if c = '\\' then '/' else c

/-- The name of an asset, if the path is one of an asset. -/
def assetName? (path : Text) : Option Text := Text.after? (assetFolder.toList ++ ['/']) path

/-- Whether the file at a path may be part of a story. -/
def isStoryFile (path : Text) : Bool :=
  ".txt".toList.isSuffixOf path || ".json".toList.isSuffixOf path

/-- Adds a file below the folder at `top`; the error is the location of a file that holds no text.
-/
def addFile (top : Location) (f : StoryFolder) (file : Location × Content) :
    Except Location StoryFolder :=
  let (l, content) := file
  if !Disk.isAbove top l then .ok f
  else
    let path := relativePath (l.drop top.length)
    match assetName? path with
    | some name => .ok { f with assets := f.assets ++ [String.ofList name] }
    | none =>
      if !isStoryFile path then .ok f
      else
        match content with
        | .text s => .ok { f with files := f.files.insert (String.ofList path) s }
        | .other => .error l

/-- What the folder at a location holds. -/
def read (d : Disk) (top : Location) : Except Location StoryFolder :=
  d.files.entries.foldlM (addFile top) ⟨.empty, []⟩

end StoryFolder
end Gamebook
