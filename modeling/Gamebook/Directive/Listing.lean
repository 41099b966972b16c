import Gamebook.Conditional.Segment
import Gamebook.Directive.Scan
import Gamebook.Page.ChoiceLine

/-!
# All directives of a text

A listing of everything that a text asks for in the order of the source, conditional blocks
included, with the choices it offers and what is left when they and the directives that act unseen
are gone.
-/

namespace Gamebook

/-- What a text asks for. -/
structure Listing where
  directives : List Directive
  choices : List Choice
  residual : Text

namespace Listing

/-- The readers of all directives but conditional blocks, one for each kind. -/
def readers : List (Text → Option Directive) :=
  Directive.assignmentReaders.map (fun read inner => (read inner).map .assign)
    ++ Directive.soundReaders.map (fun read inner => (read inner).map .sound)
    ++ [fun inner => (Directive.goto? inner).map .goto,
      fun inner => (Directive.asset? inner).map .asset]

/-- The conditional blocks of a text, each found where its opening token stands. -/
def conditionals (t : Text) : List (Find Directive) :=
  (Segment.blocksOf (Segment.parseLenient none t)).map fun (start, test, raw) =>
    (start, .conditional test (String.ofList raw))

/-- The directives of a text with their byte offsets, in reading order. -/
def placed (t : Text) : List (Find Directive) :=
  Find.inOrder (Find.passes readers t ++ conditionals t)

/-- The listing of a text. -/
def ofText (t : Text) : Listing :=
  let (choices, prose) := Choice.split t
  ⟨(placed prose).map (·.2), choices, Directive.dropSideEffects (Directive.dropAssignments prose)⟩

end Listing
end Gamebook
