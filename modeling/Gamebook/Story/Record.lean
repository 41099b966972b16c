import Gamebook.Fault
import Gamebook.Json.Reader
import Gamebook.Page.ChoiceLine
import Gamebook.Page.Json

/-!
# Stored pages

A page is stored as a record of its text and its choices, or as its text alone, from which the
choices are then read. `PageRecord.page` makes a page of a record after checking the version and
each choice.
-/

namespace Gamebook

/-- A choice as it is stored. -/
structure ChoiceRecord where
  letter : String
  text : String
  goto : Option String
deriving DecidableEq

/-- A page as it is stored. -/
inductive PageRecord where
  | source (content : String)
  | structured (version : Nat) (content : String) (hasChoices isEnding : Bool)
      (choices : List ChoiceRecord)
deriving DecidableEq

namespace PageRecord

/-- Why a stored page cannot be used. -/
inductive Invalid where
  | unreadable
  | version (found : Nat)
  | letter (raw : String)
  | target (raw : String)
  | repeated (letter : Char)
deriving DecidableEq

namespace Invalid

/-- What is wrong with a stored page. -/
def message : Invalid → String
  | unreadable => "Page record is not valid JSON"
  | version found => "Unsupported page record version " ++ toString found ++ "."
  | letter raw => "Invalid choice letter \"" ++ raw ++ "\"."
  | target raw => "Invalid choice target \"" ++ raw ++ "\"."
  | repeated ch => "Duplicate choice letter \"" ++ ch.toString ++ "\"."

/-- The report of a stored page that cannot be used. -/
def report (e : Invalid) (page : Option PageId) : Fault :=
  ⟨"API_PAGE_RECORD_INVALID", e.message, page⟩

end Invalid
end PageRecord

namespace ChoiceRecord

/-- The data form. -/
def toJson (c : ChoiceRecord) : Json :=
  .ofFields [("letter", some (.string c.letter)), ("text", some (.string c.text)),
    ("goto", c.goto.map .string)]

/-- The stored choice of a data form. -/
def ofJson? (v : Json) : Option ChoiceRecord := do
  let r ← v.record? ["letter", "text", "goto"]
  some ⟨← r.required? "letter" Json.string?, ← r.required? "text" Json.string?,
    ← r.orElse? "goto" (Json.nullable? Json.string?) none⟩

/-- The stored form of a choice. -/
def ofChoice (c : Choice) : ChoiceRecord := ⟨c.letter.toString, c.text, c.goto.map toString⟩

/-- The letter, blanks around it allowed. -/
def letter? (c : ChoiceRecord) : Except PageRecord.Invalid Letter :=
  match Text.trim c.letter.toList with
  | [ch] =>
    match Letter.ofChar? ch.toLower with
    | some l => .ok l
    | none => .error (.letter c.letter)
  | _ => .error (.letter c.letter)

/-- The page that the choice names; a blank name is none. -/
def target? (c : ChoiceRecord) : Except PageRecord.Invalid (Option PageId) :=
  match c.goto with
  | none => .ok none
  | some raw =>
    let name := Text.trim raw.toList
    if name = [] then .ok none
    else
      match PageId.parse? (String.ofList name) with
      | some target => .ok (some target)
      | none => .error (.target raw)

/-- Adds the choice of a record behind others. -/
def addTo (cs : List Choice) (c : ChoiceRecord) : Except PageRecord.Invalid (List Choice) := do
  let l ← c.letter?
  let target ← c.target?
  if cs.any fun d => d.letter == l.toChar then .error (.repeated l.toChar)
  else .ok (cs ++ [⟨l.toChar, c.text, target⟩])

end ChoiceRecord

namespace PageRecord

/-- The version of the records that are written. -/
def currentVersion : Nat := 2

/-- The data form. -/
def toJson : PageRecord → Json
  | source content => .string content
  | structured version content hasChoices isEnding choices =>
    .object [("version", .nat version), ("content", .string content),
      ("hasChoices", .bool hasChoices), ("isEnding", .bool isEnding),
      ("choices", .array (choices.map ChoiceRecord.toJson))]

/-- The stored page of a data form. -/
def ofJson? (v : Json) : Option PageRecord :=
  if ¬v.isHeld 0 then none
  else
    match v with
    | .string content => some (source content)
    | v => do
      let r ← v.record? ["version", "content", "hasChoices", "isEnding", "choices"]
      some (structured (← r.required? "version" (Json.natOfBits? 32))
        (← r.required? "content" Json.string?) (← r.orElse? "hasChoices" Json.bool? false)
        (← r.orElse? "isEnding" Json.bool? false)
        (← r.orElse? "choices" (Json.list? ChoiceRecord.ofJson?) []))

/-- The stored page that a text holds. -/
def ofText (t : String) : Except Invalid PageRecord :=
  match (Json.parse? t).bind ofJson? with
  | some r => .ok r
  | none => .error .unreadable

/-- The stored form of a page. -/
def ofPage (p : Page) : PageRecord :=
  structured currentVersion p.content p.hasChoices p.isEnding (p.choices.map ChoiceRecord.ofChoice)

/-- The page of a stored one. A record without choices has those that its text offers. -/
def page : PageRecord → Except Invalid Page
  | source content => .ok (Page.ofSource content)
  | structured version content _ isEnding choices => do
    if version ≠ currentVersion then .error (.version version)
    let cs ← choices.foldlM ChoiceRecord.addTo []
    let cs := if cs = [] then (Choice.split content.toList).1 else cs
    .ok ⟨content, !cs.isEmpty, isEnding, cs⟩

end PageRecord
end Gamebook
