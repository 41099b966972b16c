import Gamebook.Directive.Basic
import Gamebook.Text.Caseless

/-!
# Recognising directives

Each function of this module reads the whole inside of a brace token as one kind of directive.
Keywords are read without regard to case; spaces and tabs are allowed between the parts.
-/

namespace Gamebook.Directive

/-- The words that start a directive, which are therefore no names of assets. -/
def keywords : List String := ["set", "add", "sub", "if", "music", "sfx", "ambient", "goto", "stop"]

/-- Whether a text is a keyword, blanks around it and the case of ASCII letters aside. -/
def isKeyword (t : Text) : Bool := String.ofList (Text.lower (Text.trim t)) ∈ keywords

/-- A text without the spaces and tabs around it. -/
def inGaps (t : Text) : Text := Text.dropGapEnd (Text.skipGap t)

/-- What stands before the first colon, and after it if there is one. -/
def splitColon (t : Text) : Text × Option Text :=
  match t.dropWhile (· ≠ ':') with
  | ':' :: r => (t.takeWhile (· ≠ ':'), some r)
  | _ => (t, none)

/-- The assignment of a `set` token. -/
def set? (inner : Text) : Option Assignment := do
  let r ← Text.afterWord? "set:".toList inner
  let (name, r) ← Text.splitName? (Text.skipGap r)
  match Text.skipGap r with
  | '=' :: value => some (.set (String.ofList name) (Value.ofLiteral value))
  | _ => none

/-- Whether a text is an amount: an optional sign and digits, among which may be a point. -/
def isAmount (t : Text) : Bool :=
  let (_, r) := Decimal.splitSign t
  let (whole, r) := Decimal.splitDigits r
  match r with
  | [] => whole ≠ []
  | '.' :: fraction => fraction.all Char.isDigit && (whole ≠ [] || fraction ≠ [])
  | _ => false

/-- The variable and the amount of a token that starts with a keyword; the amount is one if none is
written or the written one is not finite. -/
def change? (keyword : String) (inner : Text) : Option (String × Float) := do
  let r ← Text.afterWord? keyword.toList inner
  let (name, r) ← Text.splitName? (Text.skipGap r)
  match Text.skipGap r with
  | [] => some (String.ofList name, 1)
  | '=' :: written =>
    let amount := inGaps written
    if isAmount amount then
      some (String.ofList name, (Decimal.finiteLiteral? amount).getD 1)
    else none
  | _ => none

/-- The assignment of an `add` token. -/
def add? (inner : Text) : Option Assignment := (change? "add:" inner).map fun (n, x) => .add n x

/-- The assignment of a `sub` token. -/
def sub? (inner : Text) : Option Assignment := (change? "sub:" inner).map fun (n, x) => .sub n x

/-- Whether a text is the word `loop` among spaces and tabs. -/
def isLoop (t : Text) : Bool := Text.isWord "loop".toList (inGaps t)

/-- The file name of a token, without the blanks around it. -/
def fileName (t : Text) : String := String.ofList (Text.trim t)

/-- The request of a `music` token. -/
def music? (inner : Text) : Option Sound := do
  let r ← Text.afterWord? "music:".toList inner
  match splitColon r with
  | ([], _) => none
  | (file, none) => some (.music (fileName file) false)
  | (file, some r) => if isLoop r then some (.music (fileName file) true) else none

/-- The file of a token that starts with a keyword and has no other colon. -/
def onlyFile? (keyword : String) (inner : Text) : Option String := do
  let r ← Text.afterWord? keyword.toList inner
  if r = [] ∨ ':' ∈ r then none else some (fileName r)

/-- The request of an `sfx` token. -/
def sfx? (inner : Text) : Option Sound := (onlyFile? "sfx:" inner).map .sfx

/-- The request of an `ambient` token. -/
def ambient? (inner : Text) : Option Sound := (onlyFile? "ambient:" inner).map .ambient

/-- The request of a token that only says which file is to loop. -/
def loop? (inner : Text) : Option Sound :=
  match splitColon inner with
  | ([], _) => none
  | (file, some r) =>
    if '/' ∉ file ∧ isLoop r ∧ ¬isKeyword file then some (.ambient (fileName file)) else none
  | (_, none) => none

/-- The word of a `stop` token, if it names a channel without regard to case. -/
def stopWord? (inner : Text) : Option Text := do
  let r ← Text.afterWord? "stop:".toList inner
  let word := inGaps r
  if Channel.every.any fun c => Text.isWord c.word.toList word then some word else none

/-- The request of a `stop` token. -/
def stop? (inner : Text) : Option Sound := ((stopWord? inner).bind Channel.ofText?).map .stop

/-- The target of a `goto` token. -/
def goto? (inner : Text) : Option PageId := do
  let r ← Text.afterWord? "goto:".toList inner
  PageId.parse? (String.ofList (inGaps r))

/-- The characters that may start an asset's name. -/
def isAssetStart (c : Char) : Bool := c.isAlphanum || c == '_'

/-- The characters of an asset's name. -/
def isAssetChar (c : Char) : Bool := isAssetStart c || c == '.' || c == '-' || c == ' '

/-- The name of an asset that is the whole of a text, spaces and tabs behind it aside. -/
def assetName? (t : Text) : Option String :=
  match Text.dropGapEnd t with
  | [] => none
  | c :: r =>
    if isAssetStart c ∧ r.all isAssetChar ∧ ¬isKeyword (c :: r) then some (String.ofList (c :: r))
    else none

/-- The asset that a token shows, and its size if the token names one. -/
def asset? (inner : Text) : Option AssetRef :=
  match splitColon inner with
  | (name, none) => (assetName? name).map fun n => ⟨n, none⟩
  | (name, some r) =>
    let word := inGaps r
    if AssetSize.every.any fun s => Text.isWord s.word.toList word then
      (assetName? name).map fun n => ⟨n, AssetSize.ofText? word⟩
    else none

/-- The test that opens a conditional block; without a comparison the variable must be true. -/
def opening? (inner : Text) : Option Test := do
  let r ← Text.afterWord? "if:".toList inner
  let (name, r) ← Text.splitName? (Text.skipGap r)
  let name := String.ofList name
  match Text.skipGap r with
  | [] => some ⟨name, .eq, .bool true⟩
  | r =>
    Comparison.all.findSome? fun op =>
      (Text.after? op.sign.toList r).map fun operand => ⟨name, op, Value.ofLiteral operand⟩

/-- Whether a token closes a conditional block. -/
def isClosing (inner : Text) : Bool := Text.isWord "/if".toList inner

end Gamebook.Directive
