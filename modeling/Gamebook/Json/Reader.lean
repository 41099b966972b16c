import Gamebook.Json.Token

/-!
# Reading a data file

A stack of unfinished arrays and objects and a phase that says what may come next are moved by one
token at a time. A text is read when the last token leaves a finished value and nothing open.
-/

namespace Gamebook.Json

/-- An array or object that is not closed yet, newest item first; an object also holds the key whose
value is due. A key that nothing can hold spoils its object. -/
inductive Frame where
  | array (items : List Json)
  | object (fields : List (String × Json)) (key : String) (sound : Bool)

/-- What may come next. -/
inductive Phase where
  | value
  | valueOrClose
  | key
  | keyOrClose
  | colon
  | separator
deriving DecidableEq

/-- How far a text has been read. -/
inductive Progress where
  | reading (stack : List Frame) (phase : Phase)
  | finished (v : Json)

namespace Progress

/-- Hands a finished value to the innermost open array or object. -/
def complete (v : Json) : List Frame → Progress
  | [] => finished v
  | .array items :: st => reading (.array (v :: items) :: st) .separator
  | .object fields key sound :: st =>
    reading (.object ((key, v) :: fields) "" sound :: st) .separator

/-- The value of an innermost array or object that closes. -/
def close : List Frame → Option Progress
  | .array items :: st => some (complete (.array items.reverse) st)
  | .object fields _ sound :: st =>
    some (complete (if sound then .object fields.reverse else .malformed) st)
  | [] => none

/-- Takes a token where a value is due. -/
def takeValue (stack : List Frame) : Token → Option Progress
  | .scalar v => some (complete v stack)
  | .openArray => some (reading (.array [] :: stack) .valueOrClose)
  | .openObject => some (reading (.object [] "" true :: stack) .keyOrClose)
  | _ => none

/-- Takes a token where a key is due. -/
def takeKey (stack : List Frame) (t : Token) : Option Progress :=
  match stack, t with
  | .object fields _ sound :: st, .scalar (.string k) =>
    some (reading (.object fields k sound :: st) .colon)
  | .object fields _ _ :: st, .scalar .malformed =>
    some (reading (.object fields "" false :: st) .colon)
  | _, _ => none

/-- Takes one token. -/
def step (p : Progress) (t : Token) : Option Progress :=
  match p with
  | finished _ => none
  | reading stack phase =>
    match phase, t with
    | .value, t => takeValue stack t
    | .valueOrClose, .closeArray => close stack
    | .valueOrClose, t => takeValue stack t
    | .key, t => takeKey stack t
    | .keyOrClose, .closeObject => close stack
    | .keyOrClose, t => takeKey stack t
    | .colon, .colon => some (reading stack .value)
    | .separator, t =>
      match stack, t with
      | .array _ :: _, .comma => some (reading stack .value)
      | .array _ :: _, .closeArray => close stack
      | .object _ _ _ :: _, .comma => some (reading stack .key)
      | .object _ _ _ :: _, .closeObject => close stack
      | _, _ => none
    | _, _ => none

end Progress

/-- The value that a text holds. -/
def ofText? (t : Text) : Option Json := do
  let ts ← tokens? t
  match ← ts.foldlM Progress.step (.reading [] .value) with
  | .finished v => some v
  | .reading _ _ => none

/-- The value that a text holds. -/
def parse? (s : String) : Option Json := ofText? s.toList

end Gamebook.Json
