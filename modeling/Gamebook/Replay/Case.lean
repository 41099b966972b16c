import Gamebook.Json.Printer
import Gamebook.Play.Basic
import Gamebook.Page.Json

/-!
# Replay cases

A case is a list of actions that a reader takes and the events that are expected: the pages on which
the play stops and its end. An expected page without markup accepts any markup.
-/

namespace Gamebook.Replay

/-- What a reader does at a stop. -/
inductive Action where
  | choose (letter : Char)
  | goOn
deriving DecidableEq

/-- A stop of a play; each choice is its letter and its text with a bar between. -/
inductive Event where
  | page (page : String) (html : Option String) (choices : List String)
  | ended
deriving DecidableEq

/-- A case. -/
structure Case where
  schema : String
  actions : List Action
  expected : List Event
deriving DecidableEq

namespace Action

/-- The word for a kind of action. -/
def word : Action → String
  | choose _ => "choose"
  | goOn => "continue"

/-- The data form. -/
def toJson : Action → Json
  | choose letter => .object [("kind", .string "choose"), ("letter", .string letter.toString)]
  | goOn => .object [("kind", .string "continue")]

/-- The kinds and how the fields of each are read. -/
def kinds : List (String × (Json → Option Action)) :=
  [("choose", fun v => do
      let r ← v.record? ["letter"]
      some (choose (← r.required? "letter" Json.char?))),
    ("continue", fun v => do v.noFields?; some goOn)]

/-- The action of a data form that stands inside `level` others. -/
def ofJson? (level : Nat) (v : Json) : Option Action := do
  let (tag, rest) ← v.tagged? level
  (← Json.kind? false kinds tag) rest

end Action

namespace Event

/-- The stop at a page. -/
def ofView (v : View) : Event :=
  page (toString v.page) (some (String.ofList v.html))
    (v.offers.map fun o => o.letter.toString ++ "|" ++ o.text)

/-- Whether an expected event accepts an actual one. -/
def accepts (expected actual : Event) : Bool :=
  match expected, actual with
  | page p html choices, page p' html' choices' =>
    p == p' && choices == choices' && (html.isNone || html == html')
  | ended, ended => true
  | _, _ => false

/-- The data form. -/
def toJson : Event → Json
  | page p html choices =>
    .ofFields [("kind", some (.string "page")), ("page", some (.string p)),
      ("html", html.map .string), ("choices", some (.array (choices.map .string)))]
  | ended => .object [("kind", .string "end")]

/-- The kinds and how the fields of each are read. -/
def kinds : List (String × (Json → Option Event)) :=
  [("page", fun v => do
      let r ← v.record? ["page", "html", "choices"]
      some (page (← r.required? "page" Json.string?)
        (← r.orElse? "html" (Json.nullable? Json.string?) none)
        (← r.orElse? "choices" (Json.list? Json.string?) []))),
    ("end", fun v => do v.noFields?; some ended)]

/-- The event of a data form that stands inside `level` others. -/
def ofJson? (level : Nat) (v : Json) : Option Event := do
  let (tag, rest) ← v.tagged? level
  (← Json.kind? false kinds tag) rest

end Event

namespace Case

/-- The version of the form of cases. -/
def currentSchema : String := "bp-tool-case.v1"

/-- The data form. -/
def toJson (c : Case) : Json :=
  .object [("schemaVersion", .string c.schema), ("actions", .array (c.actions.map Action.toJson)),
    ("expectedEvents", .array (c.expected.map Event.toJson))]

/-- The case of a data form. -/
def ofJson? (v : Json) : Option Case := do
  let r ← v.record? ["schemaVersion", "actions", "expectedEvents"]
  some ⟨← r.required? "schemaVersion" Json.string?,
    ← r.orElse? "actions" (Json.list? (Action.ofJson? 2)) [],
    ← r.orElse? "expectedEvents" (Json.list? (Event.ofJson? 2)) []⟩

end Case
end Gamebook.Replay
