import Gamebook.Fault
import Gamebook.Graph.Reach

/-!
# Editing a story

A page is deleted or copied with all that hangs on it by default targets. A copy shifts every step
number by the same amount and exchanges the letters in front; it never overwrites a page.
-/

namespace Gamebook

/-- Why an edit is refused. -/
inductive EditRefusal where
  | missing (page : PageId)
  | ownSubtree (source target : PageId)
  | noPlace (page target : PageId)
  | occupied (page target : PageId)
deriving DecidableEq

namespace EditRefusal

/-- The report of a refused edit. -/
def report : EditRefusal → Fault
  | missing page =>
    ⟨"GRAPH_PAGE_MISSING", "Page " ++ toString page ++ " does not exist.", some page⟩
  | ownSubtree source target =>
    ⟨"GRAPH_COPY_INVALID", "Cannot copy " ++ toString source ++ " into its own subtree at "
      ++ toString target ++ ".", some target⟩
  | noPlace page target =>
    ⟨"GRAPH_COPY_INVALID", "Page " ++ toString page ++ " cannot be placed under "
      ++ toString target ++ ".", some page⟩
  | occupied page target =>
    ⟨"GRAPH_COPY_CONFLICT", "Copying " ++ toString page ++ " would overwrite page "
      ++ toString target ++ ".", some target⟩

end EditRefusal

namespace PageId

/-- Whether a page is `top` or hangs below it. -/
def isWithin (p top : PageId) : Bool :=
  top.path.isPrefixOf p.path && p.number == top.number + (p.path.length - top.path.length)

/-- What is left of a path without the letters of another in front, if it has them. -/
def pathBehind (front path : List Letter) : List Letter :=
  if front.isPrefixOf path then path.drop front.length else path

/-- Where a page below `source` comes to stand when `source` is moved to `target`, if there is such
a page number. -/
def relocate? (source target p : PageId) : Option PageId :=
  let number : Int := (p.number : Int) - source.number + target.number
  if h : 1 ≤ number ∧ number ≤ maxPageNumber then
    some ⟨number.toNat, target.path ++ pathBehind source.path p.path,
      Int.lt_toNat.mpr (Int.lt_iff_add_one_le.mpr h.1), Int.toNat_le.mpr h.2⟩
  else none

end PageId

namespace Pages

/-- A page and all that hangs below it. -/
def subtree (pages : Pages) (id : PageId) : List PageId := id :: id.descendants pages.keys

/-- The pages without a page and all below it, and the ids of those. -/
def deleteSubtree (pages : Pages) (id : PageId) : Except EditRefusal (Pages × List PageId) :=
  if pages.contains id then
    let gone := pages.subtree id
    .ok (gone.foldl SortedMap.erase pages, gone)
  else .error (.missing id)

/-- Adds to `copied` the page `id` of `pages`, moved as `source` is to `target`. -/
def copyPage (pages : Pages) (source target : PageId) (copied : Pages) (id : PageId) :
    Except EditRefusal Pages :=
  match source.relocate? target id with
  | none => .error (.noPlace id target)
  | some place =>
    if pages.contains place || copied.contains place then .error (.occupied id place)
    else
      match pages.get? id with
      | some page => .ok (copied.insert place page)
      | none => .ok copied

/-- The pages with a copy of `source` and all below it at `target`. -/
def copySubtree (pages : Pages) (source target : PageId) : Except EditRefusal Pages :=
  if !pages.contains source then .error (.missing source)
  else if target.isWithin source then .error (.ownSubtree source target)
  else (pages.subtree source).foldlM (pages.copyPage source target) pages

end Pages
end Gamebook
