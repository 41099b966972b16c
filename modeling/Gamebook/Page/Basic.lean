import Gamebook.PageId.Tree
import Gamebook.SortedMap

/-!
# Pages and choices

A page is the text that an author wrote, the choices that end it, and whether the story ends there.
A choice leads to the page it names or else to the child of its page.
-/

namespace Gamebook

/-- A choice that a page offers. -/
structure Choice where
  letter : Char
  text : String
  goto : Option PageId := none
deriving DecidableEq

/-- A page of a story. -/
structure Page where
  content : String
  hasChoices : Bool
  isEnding : Bool
  choices : List Choice
deriving DecidableEq

/-- The pages of a story. -/
abbrev Pages := SortedMap PageId Page

namespace Choice

/-- Where the choice leads from a page: nowhere if it names no page and its letter is none. -/
def target? (c : Choice) (from' : PageId) : Option PageId := c.goto <|> from'.childAt? c.letter

end Choice

namespace Page

/-- The choice of a letter in either case. -/
def choice? (p : Page) (letter : Char) : Option Choice :=
  p.choices.find? fun c => c.letter == letter.toLower

/-- Whether the reader leaves the page by a choice. -/
def isLeftByChoice (p : Page) : Bool := p.hasChoices && !p.isEnding

end Page
end Gamebook
