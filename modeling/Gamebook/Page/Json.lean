import Gamebook.Json.Decode
import Gamebook.Page.Basic

/-!
# Pages in data files

Ids are strings, choices and pages are records.
-/

namespace Gamebook

namespace PageId

/-- The data form. -/
def toJson (p : PageId) : Json := .string (toString p)

/-- The id of a data form. -/
def ofJson? (v : Json) : Option PageId := v.string?.bind parse?

end PageId

namespace Choice

/-- The data form. -/
def toJson (c : Choice) : Json :=
  .ofFields [("letter", some (.string c.letter.toString)), ("text", some (.string c.text)),
    ("goto", c.goto.map PageId.toJson)]

/-- The choice of a data form; any character is a letter here. -/
def ofJson? (v : Json) : Option Choice := do
  let r ← v.record? ["letter", "text", "goto"]
  some ⟨← r.required? "letter" Json.char?, ← r.required? "text" Json.string?,
    ← r.orElse? "goto" (Json.nullable? PageId.ofJson?) none⟩

end Choice

namespace Page

/-- The data form. -/
def toJson (p : Page) : Json :=
  .object [("content", .string p.content), ("hasChoices", .bool p.hasChoices),
    ("isEnding", .bool p.isEnding), ("choices", .array (p.choices.map Choice.toJson))]

/-- The page of a data form. -/
def ofJson? (v : Json) : Option Page := do
  let r ← v.record? ["content", "hasChoices", "isEnding", "choices"]
  some ⟨← r.required? "content" Json.string?, ← r.required? "hasChoices" Json.bool?,
    ← r.required? "isEnding" Json.bool?, ← r.orElse? "choices" (Json.list? Choice.ofJson?) []⟩

end Page
end Gamebook
