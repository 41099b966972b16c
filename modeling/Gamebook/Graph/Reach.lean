import Gamebook.Page.Basic

/-!
# Pages that a reader can reach

From a page a reader moves to the targets of its choices or, if it has none, to its continuation, as
far as those pages exist; from an ending to none. The search takes each page out of the pages not
yet visited, so it ends.
-/

namespace Gamebook

/-- What a page is in the shape of a story. -/
inductive PageKind where
  | normal | choice | ending | orphan
deriving DecidableEq, Repr

namespace Pages

/-- The pages that a reader can move to from a page. -/
def successors (pages : Pages) (id : PageId) (page : Page) : List PageId :=
  if page.isEnding then []
  else if page.choices ≠ [] then
    (page.choices.filterMap fun c => c.target? id).filter pages.contains
  else [id.continuation].filter pages.contains

/-- What is left of the unvisited pages when `todo` and all that can be reached from there through
unvisited pages is taken out. -/
def unvisited (pages : Pages) (todo : List PageId) (left : Pages) : Pages :=
  match todo with
  | [] => left
  | id :: todo =>
    match _h : left.get? id with
    | none => unvisited pages todo left
    | some page => unvisited pages (pages.successors id page ++ todo) (left.erase id)
termination_by (left.size, todo.length)
decreasing_by
  · exact Prod.Lex.right _ (by simp)
  · exact Prod.Lex.left _ _ (SortedMap.size_erase_lt _h)

/-- The pages that can be reached from a page, itself included. -/
def reachable (pages : Pages) (root : PageId) : Pages :=
  let left := pages.unvisited [root] pages
  pages.filter fun id _ => !left.contains id

/-- What a page is, given the pages that can be reached. -/
def kindOf (reached : Pages) (id : PageId) (page : Page) : PageKind :=
  if !reached.contains id then .orphan
  else if page.isEnding then .ending
  else if page.choices ≠ [] then .choice
  else .normal

/-- What each page is. -/
def classify (pages reached : Pages) : SortedMap PageId PageKind := pages.mapValues (kindOf reached)

end Pages
end Gamebook
