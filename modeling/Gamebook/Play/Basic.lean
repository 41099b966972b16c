import Gamebook.Asset.Source
import Gamebook.Fault
import Gamebook.Play.Rendering

/-!
# Playing a story

A stage holds what does not change during a play: the pages, the settings, the assets and the
variables to begin with. A play is where the reader stands: the page shown, if the story has not
ended, the variables, and the pages visited before with the variables each was entered with. A page
is always shown by rendering it from the variables it is entered with, so going back or resuming a
snapshot runs its assignments again from the same state and never twice in a row.
-/

namespace Gamebook

/-- A choice as it is offered to a reader. -/
structure Offer where
  letter : Char
  text : String
  target : PageId
deriving DecidableEq

/-- A page as it is shown to a reader. -/
structure View where
  page : PageId
  html : Text
  offers : List Offer
  audio : List Directive
  canContinue : Bool
  isEnding : Bool
deriving DecidableEq

/-- A page shown in a play, with the variables it was entered with and where it asks to lead. -/
structure Moment where
  page : PageId
  before : Variables
  view : View
  gotos : List PageId
deriving DecidableEq

/-- A page left in a play, with the variables it was entered with. -/
structure Visit where
  page : PageId
  before : Variables
deriving DecidableEq

/-- The state of a play; the history is newest first. Without a moment the story has ended, or has
not begun. -/
structure Play where
  vars : Variables
  moment : Option Moment
  history : List Visit
deriving DecidableEq

/-- What a play shows. -/
inductive Output where
  | page (view : View)
  | ended
deriving DecidableEq

/-- Where the pages of a play come from. -/
structure PageSource where
  page? : PageId → Option Page

instance : Coe Pages PageSource := ⟨fun pages => ⟨pages.get?⟩⟩

/-- What does not change during a play. -/
structure Stage where
  pages : PageSource
  config : RenderConfig := {}
  catalog : Option Catalog := none
  allowed : Html.AllowList := .story
  initial : Variables := .empty

/-- Why a move is refused. -/
inductive Refusal where
  | noRoot
  | endedAtChoice
  | noSuchChoice (page : PageId) (letter : Char)
  | endedAtContinue
  | waitsForChoice (page : PageId)
  | badTarget (cause : PageId.Invalid)
  | nothingBefore
  | nothingToSave
  | foreignSnapshot (schema : String)
  | lostPage (page : PageId)
deriving DecidableEq

namespace Play

/-- What the play shows. -/
def output (p : Play) : Output :=
  match p.moment with
  | some m => .page m.view
  | none => .ended

/-- The page shown. -/
def page? (p : Play) : Option PageId := p.moment.map (·.page)

/-- Whether no page is shown. -/
def isEnded (p : Play) : Bool := p.moment.isNone

/-- The play with the page shown, if there is one, left for the history. -/
def leave (p : Play) : Play :=
  match p.moment with
  | some m => { p with moment := none, history := ⟨m.page, m.before⟩ :: p.history }
  | none => p

end Play

namespace Stage

/-- What a reader sees of a page that has been rendered. -/
def view (s : Stage) (id : PageId) (r : Rendering) : View :=
  let offers :=
    if r.isEnding then []
    else r.choices.filterMap fun c => (c.target? id).map fun target => ⟨c.letter, c.text, target⟩
  { page := id
    html := match s.catalog with
      | some catalog => Asset.resolveSources catalog r.html
      | none => r.html
    offers
    audio := r.sounds.map .sound
    canContinue := !r.isEnding && offers.isEmpty
    isEnding := r.isEnding }

/-- The play in which a page is shown, rendered from the play's variables. -/
def showPage (s : Stage) (p : Play) (id : PageId) (page : Page) : Play :=
  let r := page.render s.config s.allowed p.vars
  { p with
    vars := r.vars
    moment := some ⟨id, p.vars, s.view id r, r.gotos⟩ }

/-- The play that has moved on to a page; at a page that does not exist the story ends. -/
def enter (s : Stage) (p : Play) (id : PageId) : Play :=
  match s.pages.page? id with
  | some page => s.showPage p id page
  | none => { p with moment := none }

/-- The play that has left its page for another. -/
def navigate (s : Stage) (p : Play) (target : PageId) : Play := s.enter p.leave target

/-- The play before its start. -/
def fresh (s : Stage) : Play := ⟨s.initial, none, []⟩

/-- The play at the first page. -/
def start (s : Stage) : Play := s.enter s.fresh .root

/-- Takes the choice of a letter. -/
def choose (s : Stage) (p : Play) (letter : Char) : Except Refusal Play :=
  match p.moment with
  | none => .error .endedAtChoice
  | some m =>
    match m.view.offers.find? fun o => o.letter == letter.toLower with
    | some o => .ok (s.navigate p o.target)
    | none => .error (.noSuchChoice m.page letter.toLower)

/-- Goes on from a page without choices: to the target of its last goto or else to the continuation.
From an ending it ends the story. -/
def goOn (s : Stage) (p : Play) : Except Refusal Play :=
  match p.moment with
  | none => .error .endedAtContinue
  | some m =>
    if m.view.isEnding then .ok p.leave
    else if m.view.offers ≠ [] then .error (.waitsForChoice m.page)
    else .ok (s.navigate p (m.gotos.getLast?.getD m.page.continuation))

/-- Goes to a page given by its written id. -/
def jump (s : Stage) (p : Play) (raw : String) : Except Refusal Play :=
  match PageId.parse raw with
  | .ok target => .ok (s.navigate p target)
  | .error cause => .error (.badTarget cause)

/-- Goes back to the page before, with the variables it was entered with. -/
def back (s : Stage) (p : Play) : Except Refusal Play :=
  match p.history with
  | [] => .error .nothingBefore
  | v :: earlier => .ok (s.enter ⟨v.before, none, earlier⟩ v.page)

end Stage
end Gamebook
