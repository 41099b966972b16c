import Gamebook.Cli.Source
import Gamebook.Graph.Edge
import Gamebook.Play.Json

/-!
# Reports

What the commands print, line by line: the stop of a play for an agent, the diagnostics and the map
of a story, and a fault.
-/

namespace Gamebook.Cli

/-- A text in quotation marks, on one line. -/
def quoted (s : String) : String := String.ofList (Json.quote s.toList)

/-- A truth value. -/
def flag (b : Bool) : String := if b then "true" else "false"

/-- The lines for a page. -/
def viewLines (v : View) : List String :=
  ["EVENT:PAGE", "PAGE:" ++ toString v.page, "HTML_JSON:" ++ quoted (String.ofList v.html)]
    ++ v.offers.map (fun o => "CHOICE:" ++ o.letter.toString ++ "|" ++ quoted o.text)
    ++ v.audio.map (fun d => "AUDIO_JSON:" ++ d.toJson.compact)
    ++ ["CAN_CONTINUE:" ++ flag v.canContinue, "IS_ENDING:" ++ flag v.isEnding]

/-- The lines for the stop of a play that is saved at a path, or not. -/
def stopLines (o : Output) (savedAt : Option String) : List String :=
  let shown := match o with
    | .page v => viewLines v
    | .ended => ["EVENT:END"]
  "RESULT:OK" :: shown ++ ["STATE_OUT:" ++ savedAt.getD "NONE"]

/-- The lines for a fault. -/
def faultLines (f : Fault) : List String :=
  ["RESULT:ERROR", "ERROR_CODE:" ++ f.code, "ERROR_MSG_JSON:" ++ quoted f.message]
    ++ f.page.toList.map fun page => "ERROR_PAGE:" ++ toString page

/-- The line for a diagnostic. -/
def diagnosticLine (d : Diagnostic) : String :=
  d.severity.heading ++ " [" ++ (d.page.map toString).getD "-" ++ "] " ++ d.message

/-- How many diagnostics are of a severity. -/
def count (ds : List Diagnostic) (s : Severity) : Nat := ds.countP fun d => d.severity == s

/-- The lines for the diagnostics of a story. -/
def checkLines (s : Story) : List String :=
  let ds := s.diagnostics
  ds.map diagnosticLine
    ++ ["SUMMARY:pages=" ++ toString s.pages.size ++ " errors=" ++ toString (count ds .error)
      ++ " warnings=" ++ toString (count ds .warning) ++ " infos=" ++ toString (count ds .info)]

/-- Whether a check fails: by an error, or by a warning where the check is strict. -/
def fails (ds : List Diagnostic) (strict : Bool) : Bool :=
  count ds .error > 0 || (strict && count ds .warning > 0)

/-- The lines for the map of a story. -/
def mapLines (m : StoryMap) : List String :=
  m.kinds.entries.map (fun (id, kind) => "PAGE:" ++ toString id ++ "|" ++ kind.word)
    ++ m.edges.map fun e =>
      "EDGE:" ++ toString e.source ++ "|" ++ toString e.target ++ "|"
        ++ (e.label.map quoted).getD "null"

end Gamebook.Cli
