import Gamebook.Play.Basic

/-!
# Reports of refused moves

Each refusal has a code, a message, and names the page where the reader stands when the page is why
the move is refused.
-/

namespace Gamebook

/-- The version of the form in which a play is saved. -/
def Snapshot.currentSchema : String := "player-snapshot.v1"

namespace Refusal

/-- The code of a refusal. -/
def code : Refusal → String
  | noRoot => "ENGINE_ROOT_MISSING"
  | endedAtChoice | noSuchChoice _ _ => "ENGINE_CHOICE_INVALID"
  | endedAtContinue | waitsForChoice _ => "ENGINE_CONTINUE_INVALID"
  | badTarget _ => "PAGE_ID_INVALID"
  | nothingBefore => "ENGINE_BACK_EMPTY"
  | nothingToSave => "ENGINE_SNAPSHOT_NOT_ALLOWED"
  | foreignSnapshot _ => "ENGINE_SNAPSHOT_SCHEMA"
  | lostPage _ => "ENGINE_SNAPSHOT_PAGE_MISSING"

/-- Why the move is refused. -/
def message : Refusal → String
  | noRoot => "Story has no root page."
  | endedAtChoice | endedAtContinue => "The story has ended."
  | noSuchChoice page letter =>
    "Page " ++ toString page ++ " has no choice \"" ++ letter.toString ++ "\"."
  | waitsForChoice page => "Page " ++ toString page ++ " waits for a choice."
  | badTarget cause => cause.message
  | nothingBefore => "There is no previous page."
  | nothingToSave => "snapshot() needs a current page."
  | foreignSnapshot schema =>
    "Unsupported snapshot schema \"" ++ schema ++ "\", expected \""
      ++ Snapshot.currentSchema ++ "\"."
  | lostPage page => "Snapshot page " ++ toString page ++ " no longer exists."

/-- The page that a refusal is about. -/
def page? : Refusal → Option PageId
  | noRoot => some .root
  | noSuchChoice page _ | waitsForChoice page | lostPage page => some page
  | _ => none

/-- The report of a refused move. -/
def report (r : Refusal) : Fault := ⟨r.code, r.message, r.page?⟩

end Refusal
end Gamebook
