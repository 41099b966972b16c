import Gamebook.PageId.Basic

/-!
# Faults

Every failure that a reader or an author gets to see is reported as a code, a message and, where one
is to blame, a page. The parts of the library have failure types of their own and say here or beside
them how each is reported.
-/

namespace Gamebook

/-- A reported failure. -/
structure Fault where
  code : String
  message : String
  page : Option PageId := none
deriving DecidableEq

namespace Fault

/-- Code and message on one line. -/
def display (f : Fault) : String := f.code ++ ": " ++ f.message

end Fault

namespace PageId.Invalid

/-- What is wrong with a page id. -/
def message : Invalid → String
  | notAnId raw => "\"" ++ raw ++ "\" is not a page id (expected digits followed by a-e)."
  | outOfRange digits => "Page number \"" ++ digits ++ "\" is out of range."
  | zero => "Page number must be at least 1."
  | letter ch => "Path letter \"" ++ ch.toString ++ "\" is outside a-e."

/-- The report of a text that is no page id. -/
def report (e : Invalid) : Fault := { code := "PAGE_ID_INVALID", message := e.message }

end PageId.Invalid
end Gamebook
