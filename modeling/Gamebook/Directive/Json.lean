import Gamebook.Directive.Basic
import Gamebook.Page.Json
import Gamebook.Value.Json

/-!
# Directives in data files

A directive is a record tagged with its kind.
-/

namespace Gamebook

namespace Comparison

/-- The comparison of a data form. -/
def ofJson? (v : Json) : Option Comparison := v.heldWordIn? ofSign?

end Comparison

namespace Channel

/-- The channel of a data form: the exact word. -/
def ofJson? (v : Json) : Option Channel := v.heldWordIn? fun s => every.find? fun c => c.word == s

end Channel

namespace AssetSize

/-- The size of a data form: the exact word. -/
def ofJson? (v : Json) : Option AssetSize := v.heldWordIn? fun s => every.find? fun c => c.word == s

end AssetSize

namespace Directive

/-- A record of a kind. -/
def record (kind : String) (fields : List (String × Json)) : Json :=
  .object (("kind", .string kind) :: fields)

/-- The data form. -/
def toJson : Directive → Json
  | assign (.set name value) =>
    record "setVar" [("name", .string name), ("value", value.toJson)]
  | assign (.add name amount) =>
    record "addVar" [("name", .string name), ("delta", .float amount)]
  | assign (.sub name amount) =>
    record "subVar" [("name", .string name), ("delta", .float amount)]
  | conditional test body =>
    record "conditional" [("name", .string test.name), ("operator", .string test.operator.sign),
      ("compareValue", test.operand.toJson), ("body", .string body)]
  | sound (.music file loop) =>
    record "playMusic" [("file", .string file), ("loop", .bool loop)]
  | sound (.sfx file) => record "playSfx" [("file", .string file)]
  | sound (.ambient file) => record "playAmbient" [("file", .string file)]
  | sound (.stop channel) => record "stopAudio" [("target", .string channel.word)]
  | goto target => record "goto" [("target", target.toJson)]
  | asset ref =>
    record "assetRef" [("name", .string ref.name),
      ("sizeHint", (ref.size.map fun s => Json.string s.word).getD .null)]

/-- The kinds and how the fields of each are read. -/
def kinds : List (String × (Json → Option Directive)) :=
  [("setVar", fun v => do
      let r ← v.record? ["name", "value"]
      some (assign (.set (← r.required? "name" Json.string?)
        (← r.required? "value" Value.ofJson?)))),
    ("addVar", fun v => do
      let r ← v.record? ["name", "delta"]
      some (assign (.add (← r.required? "name" Json.string?)
        (← r.required? "delta" Json.float?)))),
    ("subVar", fun v => do
      let r ← v.record? ["name", "delta"]
      some (assign (.sub (← r.required? "name" Json.string?)
        (← r.required? "delta" Json.float?)))),
    ("conditional", fun v => do
      let r ← v.record? ["name", "operator", "compareValue", "body"]
      let test : Test := ⟨← r.required? "name" Json.string?,
        ← r.required? "operator" Comparison.ofJson?, ← r.required? "compareValue" Value.ofJson?⟩
      some (conditional test (← r.required? "body" Json.string?))),
    ("playMusic", fun v => do
      let r ← v.record? ["file", "loop"]
      some (sound (.music (← r.required? "file" Json.string?) (← r.required? "loop" Json.bool?)))),
    ("playSfx", fun v => do
      let r ← v.record? ["file"]
      some (sound (.sfx (← r.required? "file" Json.string?)))),
    ("playAmbient", fun v => do
      let r ← v.record? ["file"]
      some (sound (.ambient (← r.required? "file" Json.string?)))),
    ("stopAudio", fun v => do
      let r ← v.record? ["target"]
      some (sound (.stop (← r.required? "target" Channel.ofJson?)))),
    ("goto", fun v => do
      let r ← v.record? ["target"]
      some (goto (← r.required? "target" PageId.ofJson?))),
    ("assetRef", fun v => do
      let r ← v.record? ["name", "sizeHint"]
      some (asset ⟨← r.required? "name" Json.string?, ← r.nullable? "sizeHint" AssetSize.ofJson?⟩))]

/-- The directive of a data form that stands inside `level` others; `inside` says that it is part of
a value that is held as a whole. -/
def ofJson? (level : Nat) (inside : Bool) (v : Json) : Option Directive := do
  let (tag, rest) ← v.tagged? level
  (← Json.kind? inside kinds tag) rest

end Directive
end Gamebook
