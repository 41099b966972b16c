import Gamebook.Directive.Json
import Gamebook.Play.Snapshot

/-!
# Plays in data files

What a play shows, a rendered page, and the snapshot in which a play is saved.
-/

namespace Gamebook

namespace Rendering

/-- The data form. -/
def toJson (r : Rendering) : Json :=
  .object [("html", .string (String.ofList r.html)), ("variables", r.vars.toJson),
    ("audioCommands", .array (r.sounds.map fun s => (Directive.sound s).toJson)),
    ("gotoCommands", .array (r.gotos.map PageId.toJson)),
    ("choices", .array (r.choices.map Choice.toJson)), ("isEnding", .bool r.isEnding)]

end Rendering

namespace Offer

/-- The data form. -/
def toJson (o : Offer) : Json :=
  .object [("letter", .string o.letter.toString), ("text", .string o.text),
    ("target", o.target.toJson)]

/-- The offer of a data form. -/
def ofJson? (v : Json) : Option Offer := do
  let r ← v.record? ["letter", "text", "target"]
  some ⟨← r.required? "letter" Json.char?, ← r.required? "text" Json.string?,
    ← r.required? "target" PageId.ofJson?⟩

end Offer

namespace View

/-- The data form. -/
def toJson (v : View) : Json :=
  .object [("page", v.page.toJson), ("html", .string (String.ofList v.html)),
    ("choices", .array (v.offers.map Offer.toJson)),
    ("audioCommands", .array (v.audio.map Directive.toJson)),
    ("canContinue", .bool v.canContinue), ("isEnding", .bool v.isEnding)]

/-- The view of a data form that stands inside a tagged record. -/
def ofJson? (v : Json) : Option View := do
  let r ← v.record? ["page", "html", "choices", "audioCommands", "canContinue", "isEnding"]
  some
    { page := ← r.required? "page" PageId.ofJson?
      html := (← r.required? "html" Json.string?).toList
      offers := ← r.required? "choices" (Json.list? Offer.ofJson?)
      audio := ← r.required? "audioCommands" (Json.list? (Directive.ofJson? 0 true))
      canContinue := ← r.required? "canContinue" Json.bool?
      isEnding := ← r.required? "isEnding" Json.bool? }

end View

namespace Output

/-- The data form. -/
def toJson : Output → Json
  | page view => .object [("kind", .string "page"), ("view", view.toJson)]
  | ended => .object [("kind", .string "end")]

/-- The kinds and how the fields of each are read. -/
def kinds : List (String × (Json → Option Output)) :=
  [("page", fun v => do
      let r ← v.record? ["view"]
      some (page (← r.required? "view" View.ofJson?))),
    ("end", fun v => do v.noFields?; some ended)]

/-- The output of a data form. -/
def ofJson? (v : Json) : Option Output := do
  let (tag, rest) ← v.tagged? 0
  (← Json.kind? false kinds tag) rest

end Output

namespace Visit

/-- The data form. -/
def toJson (v : Visit) : Json :=
  .object [("page", v.page.toJson), ("variablesBefore", v.before.toJson)]

/-- The visit of a data form. -/
def ofJson? (v : Json) : Option Visit := do
  let r ← v.record? ["page", "variablesBefore"]
  some ⟨← r.required? "page" PageId.ofJson?, ← r.required? "variablesBefore" Variables.ofJson?⟩

end Visit

namespace Snapshot

/-- The data form. -/
def toJson (s : Snapshot) : Json :=
  .object [("schemaVersion", .string s.schema), ("page", s.page.toJson),
    ("variablesBefore", s.before.toJson), ("history", .array (s.history.map Visit.toJson))]

/-- The snapshot of a data form. -/
def ofJson? (v : Json) : Option Snapshot := do
  let r ← v.record? ["schemaVersion", "page", "variablesBefore", "history"]
  some ⟨← r.required? "schemaVersion" Json.string?, ← r.required? "page" PageId.ofJson?,
    ← r.required? "variablesBefore" Variables.ofJson?,
    ← r.orElse? "history" (Json.list? Visit.ofJson?) []⟩

end Snapshot
end Gamebook
