import Gamebook.PageId.Basic
import Gamebook.Value.Test

/-!
# Directives

What brace tokens ask for: to change a variable, to play or stop sound, to lead the continuation to
another page, to show an asset, or to show a part of the text only when a test holds.
-/

namespace Gamebook

/-- A change of one variable. -/
inductive Assignment where
  | set (name : String) (value : Value)
  | add (name : String) (amount : Float)
  | sub (name : String) (amount : Float)
deriving DecidableEq

/-- What a stop directive silences. -/
inductive Channel where
  | music | sfx | ambient | all
deriving DecidableEq, Repr

/-- A request to the sound player. -/
inductive Sound where
  | music (file : String) (loop : Bool)
  | sfx (file : String)
  | ambient (file : String)
  | stop (channel : Channel)
deriving DecidableEq

/-- How large an asset is shown. -/
inductive AssetSize where
  | small | medium | large
deriving DecidableEq, Repr

/-- An asset that a page shows. -/
structure AssetRef where
  name : String
  size : Option AssetSize
deriving DecidableEq

/-- Everything that a brace token can ask for. -/
inductive Directive where
  | assign (a : Assignment)
  | sound (s : Sound)
  | goto (target : PageId)
  | asset (ref : AssetRef)
  | conditional (test : Test) (body : String)
deriving DecidableEq

namespace Channel

/-- All channels. -/
def every : List Channel := [music, sfx, ambient, all]

/-- The written word. -/
def word : Channel → String
  | music => "music"
  | sfx => "sfx"
  | ambient => "ambient"
  | all => "all"

/-- The channel that a word with blanks around it names; case counts in no ASCII letter. -/
def ofText? (t : Text) : Option Channel :=
  every.find? fun c => c.word.toList == Text.lower (Text.trim t)

end Channel

namespace AssetSize

/-- All sizes. -/
def every : List AssetSize := [small, medium, large]

/-- The written word. -/
def word : AssetSize → String
  | small => "small"
  | medium => "medium"
  | large => "large"

/-- The size that a word with blanks around it names; case counts in no ASCII letter. -/
def ofText? (t : Text) : Option AssetSize :=
  every.find? fun s => s.word.toList == Text.lower (Text.trim t)

/-- The class of an element that shows an asset of this size. -/
def className (s : AssetSize) : String := "asset-" ++ s.word

end AssetSize

namespace Directive

/-- Whether it changes a variable. -/
def isAssignment : Directive → Bool
  | assign _ => true
  | _ => false

/-- Whether it asks the sound player for something. -/
def isSound : Directive → Bool
  | sound _ => true
  | _ => false

end Directive

namespace Assignment

/-- The number that a variable holds, zero when it holds none. -/
def numberOrZero (vars : Variables) (name : String) : Float :=
  ((vars.get? name).bind Value.number?).getD 0

/-- The variables after the change. -/
def apply (vars : Variables) : Assignment → Variables
  | set name value => vars.insert name value
  | add name amount => vars.insert name (.number (numberOrZero vars name + amount))
  | sub name amount => vars.insert name (.number (numberOrZero vars name - amount))

/-- The variables after changes in turn. -/
def applyAll (vars : Variables) (as : List Assignment) : Variables := as.foldl apply vars

end Assignment
end Gamebook
