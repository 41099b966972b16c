import Gamebook.Directive.Token
import Gamebook.Fault
import Gamebook.Text.Brace

/-!
# Conditional blocks

A text is divided into plain runs and blocks, a block being an opening token, a body and a closing
token. Tokens are matched as brackets are. Strict division refuses a token without a partner;
lenient division keeps it as text. A limit on open blocks, where there is one, is never exceeded.
-/

namespace Gamebook

/-- A part of a text: a run without blocks, or a block. Of a block are kept the two tokens as they
are written, the test, the byte offset of the opening token, the body, and the body as it is
written. -/
inductive Segment where
  | text (run : Text)
  | block (opener : Text) (test : Test) (start : Nat) (body : List Segment) (raw : Text)
      (closer : Text)

namespace Segment

/-- Why a text cannot be divided into blocks. -/
inductive Unbalanced where
  | unexpectedClose (start : Nat)
  | unclosed (opener : Text) (start : Nat)
  | tooDeep (limit : Nat)
deriving DecidableEq

namespace Unbalanced

/-- The code of each cause. -/
def code : Unbalanced → String
  | tooDeep _ => "PARSE_IF_TOO_DEEP"
  | _ => "PARSE_IF_UNBALANCED"

/-- What is wrong with the blocks. -/
def message : Unbalanced → String
  | unexpectedClose start => "Unexpected \x7b/if\x7d at byte " ++ toString start ++ "."
  | unclosed opener start =>
    "Unclosed " ++ String.ofList opener ++ " at byte " ++ toString start ++ "."
  | tooDeep limit => "Conditional nesting exceeds " ++ toString limit ++ " levels."

/-- The report of a text whose blocks do not match. -/
def report (u : Unbalanced) : Fault := { code := u.code, message := u.message }

end Unbalanced

mutual
/-- The text that a segment was read from. -/
def source : Segment → Text
  | text run => run
  | block opener _ _ body _ closer => opener ++ sources body ++ closer
/-- The text that segments were read from. -/
def sources : List Segment → Text
  | [] => []
  | s :: ss => source s ++ sources ss
end

/-- An opened block, its parts so far newest first. -/
structure Opened where
  opener : Text
  test : Test
  start : Nat
  parts : List Segment

/-- The division so far: the blocks that are open, innermost first, and the parts outside them,
newest first. -/
structure Division where
  opened : List Opened
  parts : List Segment

/-- Adds a run behind parts held newest first; runs that meet become one, an empty one vanishes. -/
def addText (run : Text) (parts : List Segment) : List Segment :=
  if run = [] then parts
  else
    match parts with
    | text before :: ps => text (before ++ run) :: ps
    | ps => text run :: ps

/-- Adds a segment behind parts held newest first. -/
def add (s : Segment) (parts : List Segment) : List Segment :=
  match s with
  | text run => addText run parts
  | s => s :: parts

namespace Division

/-- Changes the parts of the innermost open block, or those outside all blocks. -/
def modifyParts (f : List Segment → List Segment) (d : Division) : Division :=
  match d.opened with
  | [] => { d with parts := f d.parts }
  | o :: os => { d with opened := { o with parts := f o.parts } :: os }

/-- Takes one piece of the text `whole`, which starts at byte `start`. -/
def step (strict : Bool) (limit : Option Nat) (whole : Text) (d : Division) (start : Nat)
    (p : Piece) : Except Unbalanced Division :=
  match p with
  | .plain run => .ok (d.modifyParts (addText run))
  | .token inner =>
    if Directive.isClosing inner then
      match d.opened with
      | o :: os =>
        let raw := Text.byteSlice whole (o.start + o.opener.byteLength) start
        let closed := block o.opener o.test o.start o.parts.reverse raw p.source
        .ok (modifyParts (add closed) { d with opened := os })
      | [] =>
        if strict then .error (.unexpectedClose start)
        else .ok (d.modifyParts (addText p.source))
    else
      match Directive.opening? inner with
      | none => .ok (d.modifyParts (addText p.source))
      | some test =>
        match limit with
        | some n =>
          if n ≤ d.opened.length then .error (.tooDeep n)
          else .ok { d with opened := ⟨p.source, test, start, []⟩ :: d.opened }
        | none => .ok { d with opened := ⟨p.source, test, start, []⟩ :: d.opened }

/-- Turns what is still open into text, innermost first. -/
def abandon (parts : List Segment) : List Opened → List Segment
  | [] => parts
  | [o] => o.parts.reverse.foldl (fun ps s => add s ps) (addText o.opener parts)
  | o :: o' :: os =>
    let merged := o.parts.reverse.foldl (fun ps s => add s ps) (addText o.opener o'.parts)
    abandon parts ({ o' with parts := merged } :: os)
termination_by os => os.length

end Division

/-- Divides a text; what stays open at its end is an error or becomes text. -/
def divide (strict : Bool) (limit : Option Nat) (t : Text) : Except Unbalanced (List Segment) := do
  let d ← (Piece.locate 0 (Piece.ofText t)).foldlM
    (fun d (start, p) => d.step strict limit t start p) (⟨[], []⟩ : Division)
  match d.opened with
  | o :: _ =>
    if strict then .error (.unclosed o.opener o.start)
    else .ok (Division.abandon d.parts d.opened).reverse
  | [] => .ok d.parts.reverse

/-- Strict division. -/
def parse (limit : Option Nat) (t : Text) : Except Unbalanced (List Segment) := divide true limit t

/-- Lenient division; a text nested beyond the limit is one run. -/
def parseLenient (limit : Option Nat) (t : Text) : List Segment :=
  match divide false limit t with
  | .ok ss => ss
  | .error _ => [text t]

mutual
/-- The tests, byte offsets and written bodies of a segment's blocks, outer before inner. -/
def blocks : Segment → List (Nat × Test × Text)
  | text _ => []
  | block _ test start body raw _ => (start, test, raw) :: blocksOf body
/-- The blocks of segments, outer before inner. -/
def blocksOf : List Segment → List (Nat × Test × Text)
  | [] => []
  | s :: ss => blocks s ++ blocksOf ss
end

mutual
/-- The text that is left of a segment when the blocks whose test fails are dropped. -/
def resolve (vars : Variables) : Segment → Text
  | text run => run
  | block _ test _ body _ _ => if test.holds vars then resolveAll vars body else []
/-- The text that is left of segments. -/
def resolveAll (vars : Variables) : List Segment → Text
  | [] => []
  | s :: ss => resolve vars s ++ resolveAll vars ss
end

end Segment

/-- A text without the blocks whose test fails; tokens without a partner stay. -/
def Text.resolve (limit : Option Nat) (vars : Variables) (t : Text) : Text :=
  Segment.resolveAll vars (Segment.parseLenient limit t)

/-- A text without the blocks whose test fails, if its tokens all match. -/
def Text.resolveStrict (limit : Option Nat) (vars : Variables) (t : Text) :
    Except Segment.Unbalanced Text :=
  (Segment.parse limit t).map (Segment.resolveAll vars)

end Gamebook
