import Gamebook.Json.Decode
import Gamebook.Value.Basic

/-!
# Values and variables in data files

A value is a truth value, a number or a string; variables are an object.
-/

namespace Gamebook

namespace Value

/-- The data form. -/
def toJson : Value → Json
  | bool b => .bool b
  | number x => .float x
  | string s => .string s

/-- The value of a data form. -/
def ofJson? (v : Json) : Option Value :=
  match v with
  | .bool b => some (bool b)
  | .string s => some (string s)
  | v => v.float?.map number

end Value

namespace Variables

/-- The data form. -/
def toJson (vars : Variables) : Json := .object (vars.entries.map fun (k, v) => (k, v.toJson))

/-- The variables of a data form; of a repeated name the last value counts. -/
def ofJson? : Json → Option Variables
  | .object fields =>
    (fields.mapM fun f => (Value.ofJson? f.2).map (f.1, ·)).map SortedMap.ofList
  | _ => none

end Variables
end Gamebook
