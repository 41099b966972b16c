import Gamebook.Directive.Find
import Gamebook.Directive.Token

/-!
# Directives in a text

The assignments, the sound requests and gotos, and the assets of a text in reading order, and the
text without them. Removal goes kind by kind, each over what the one before has left.
-/

namespace Gamebook.Directive

/-- The readers of assignments, one for each kind. -/
def assignmentReaders : List (Text → Option Assignment) := [set?, add?, sub?]

/-- The readers of sound requests, one for each kind. -/
def soundReaders : List (Text → Option Sound) := [music?, sfx?, ambient?, loop?, stop?]

/-- The assignments of a text in reading order. -/
def assignments (t : Text) : List Assignment := Find.gather assignmentReaders t

/-- The sound requests of a text in reading order. -/
def sounds (t : Text) : List Sound := Find.gather soundReaders t

/-- The targets of the gotos of a text in reading order. -/
def gotos (t : Text) : List PageId := Find.gather [goto?] t

/-- The assets of a text in reading order. -/
def assets (t : Text) : List AssetRef := Find.gather [asset?] t

/-- Removes the tokens that satisfy each test in turn. -/
def dropInTurn (kinds : List (Text → Bool)) (t : Text) : Text :=
  kinds.foldl (fun t p => Piece.dropTokens p t) t

/-- The text without its assignments. -/
def dropAssignments (t : Text) : Text :=
  dropInTurn [fun i => (set? i).isSome, fun i => (add? i).isSome, fun i => (sub? i).isSome] t

/-- The text without its sounds and gotos; a stop goes also when it names no channel exactly. -/
def dropSideEffects (t : Text) : Text :=
  dropInTurn [fun i => (music? i).isSome, fun i => (sfx? i).isSome, fun i => (ambient? i).isSome,
    fun i => (loop? i).isSome, fun i => (stopWord? i).isSome, fun i => (goto? i).isSome] t

/-- The text with each asset written as `f` says. -/
def replaceAssets (f : AssetRef → Text) (t : Text) : Text :=
  Piece.replaceTokens (fun inner => (asset? inner).map f) (Piece.ofText t)

end Gamebook.Directive
