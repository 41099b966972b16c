import Gamebook.Html.Element
import Gamebook.Html.Reference

/-!
# Tokens of a document

`Token.next` reads one token off a text. How it reads depends on the element that the text stands
in: the text of some elements knows no tags, or no references either. A text token in ordinary text
is either all blank or holds no blank at all.
-/

namespace Gamebook.Html

/-- A token. Declarations and comments have no content here. -/
inductive Token where
  | text (run : Text)
  | nul
  | startTag (name : String) (attributes : List Attribute) (selfClosing : Bool)
  | endTag (name : String)
  | comment
deriving DecidableEq

/-- How a text is read: with tags and references; as the text of an element up to its end tag, with
references or without; as a script; or with nothing special in it to the end. -/
inductive Reading where
  | ordinary
  | untilTag (name : String) (references : Bool)
  | script
  | plain
deriving DecidableEq

namespace Token

/-- The blanks between attributes. -/
def isSpace (c : Char) : Bool := c == ' ' || c == '\t' || c == '\n' || c == '\x0c'

/-- The blanks of ordinary text. -/
def isBlank (c : Char) : Bool := isSpace c || c == '\r'

/-- The characters that end the name of a tag. -/
def endsName (c : Char) : Bool := isSpace c || c == '/' || c == '>'

/-- A null character becomes the replacement character. -/
def withoutNul (t : Text) : Text := t.map fun c => if c = '\x00' then Reference.replacement else c

/-- A name in lower case. -/
def nameOf (t : Text) : String := String.ofList (Text.lower (withoutNul t))

/-- The value of an attribute that is written in `t`. -/
def valueOf (t : Text) : String := String.ofList (Reference.resolve true (withoutNul t))

/-- The text behind the next `>`, or nothing. -/
def afterBracket (t : Text) : Text := (t.dropWhile (· ≠ '>')).drop 1

/-- Adds an attribute unless one of its name is there. -/
def addAttribute (as : List Attribute) (name : Text) (value : String) : List Attribute :=
  if as.any fun a => a.name == nameOf name then as else as ++ [⟨nameOf name, value, ""⟩]

/-- The value of an attribute behind its equals sign, and the text after it. -/
def attributeValue? (t : Text) : Option (String × Text) :=
  let quoted (q : Char) (r : Text) : Option (String × Text) :=
    match r.dropWhile (· ≠ q) with
    | [] => none
    | _ :: rest => some (valueOf (r.takeWhile (· ≠ q)), rest)
  match t.dropWhile isSpace with
  | [] => none
  | '"' :: r => quoted '"' r
  | '\'' :: r => quoted '\'' r
  | r =>
    let ends (c : Char) : Bool := isSpace c || c == '>'
    some (valueOf (r.takeWhile fun c => !ends c), r.dropWhile fun c => !ends c)

/-- The attributes of a tag, whether it closes itself, and the text after it; nothing if the text
ends in the tag. Every round takes a character, so the length of the text bounds the rounds. -/
def attributes? (as : List Attribute) : Nat → Text → Option (List Attribute × Bool × Text)
  | 0, _ => none
  | rounds + 1, t =>
    match t.dropWhile isSpace with
    | [] => none
    | '>' :: r => some (as, false, r)
    | '/' :: '>' :: r => some (as, true, r)
    | '/' :: r => attributes? as rounds r
    | c :: r =>
      let ends (c : Char) : Bool := endsName c || c == '='
      let name := c :: r.takeWhile fun c => !ends c
      match (r.dropWhile fun c => !ends c).dropWhile isSpace with
      | '=' :: r =>
        match attributeValue? r with
        | none => none
        | some (value, rest) => attributes? (addAttribute as name value) rounds rest
      | rest => attributes? (addAttribute as name "") rounds rest

/-- The name of a tag, its attributes, whether it closes itself, and the text after it. -/
def tag? (t : Text) : Option (String × List Attribute × Bool × Text) :=
  let rest := t.dropWhile fun c => !endsName c
  (attributes? [] (rest.length + 1) rest).map fun (as, closing, rest) =>
    (nameOf (t.takeWhile fun c => !endsName c), as, closing, rest)

/-- The text behind a comment that starts with two hyphens in front of `t`. -/
def afterComment (t : Text) : Text :=
  match t with
  | '>' :: r => r
  | '-' :: '>' :: r => r
  | t =>
    let closing (t : Text) : Option Text :=
      Text.after? "-->".toList t <|> Text.after? "--!>".toList t
    (Text.findFirst? closing t).getD []

/-- The token of a start tag without its bracket, and the text after it. -/
def startTagToken (t : Text) : Option Token × Text :=
  match tag? t with
  | some (name, as, closing, rest) => (some (startTag name as closing), rest)
  | none => (none, [])

/-- The token of an end tag without its bracket and slash, and the text after it. -/
def endTagToken (t : Text) : Option Token × Text :=
  match tag? t with
  | some (name, _, _, rest) => (some (endTag name), rest)
  | none => (none, [])

/-- The content of a section of unparsed text, and the text after it. -/
def unparsed (t : Text) : Text × Text :=
  match Text.findFirst? (Text.after? "]]>".toList) t with
  | some rest => (t.take (t.length - rest.length - 3), rest)
  | none => (t, [])

/-- The token that starts with `<!`, and the text after it. Sections of unparsed text exist only in
other vocabularies. -/
def declaration (foreign : Bool) (t : Text) : Option Token × Text :=
  match Text.after? "--".toList t with
  | some r => (some comment, afterComment r)
  | none =>
    match Text.after? "[CDATA[".toList t, foreign with
    | some r, true =>
      let (content, rest) := unparsed r
      (if content = [] then none else some (text content), rest)
    | _, _ =>
      if Text.lower (t.take 7) = "doctype".toList then (none, afterBracket t)
      else (some comment, afterBracket t)

/-- The token that starts with `<`, and the text after it. -/
def markup (foreign : Bool) (t : Text) : Option Token × Text :=
  match t with
  | '!' :: r => declaration foreign r
  | '?' :: r => (some comment, afterBracket r)
  | '/' :: '>' :: r => (none, r)
  | '/' :: c :: r =>
    if c.isAlpha then endTagToken (c :: r) else (some comment, afterBracket (c :: r))
  | ['/'] => (some (text ['<', '/']), [])
  | c :: r => if c.isAlpha then startTagToken (c :: r) else (some (text ['<']), c :: r)
  | [] => (some (text ['<']), [])

/-- Reads a token of ordinary text. -/
def nextOrdinary (foreign : Bool) (t : Text) : Option Token × Text :=
  match t with
  | [] => (none, [])
  | '<' :: r => markup foreign r
  | '&' :: r =>
    match Reference.read? false r with
    | some (value, rest) => (some (text value), rest)
    | none => (some (text ['&']), r)
  | '\x00' :: r => (some nul, r)
  | c :: r =>
    let goesOn (d : Char) : Bool :=
      isBlank d == isBlank c && d != '<' && d != '&' && d != '\x00'
    (some (text (c :: r.takeWhile goesOn)), r.dropWhile goesOn)

/-- Whether a text starts, behind its bracket, with a tag of the given name. -/
def startsTag (name : String) (t : Text) : Bool :=
  Text.lower (t.take name.length) == name.toList && (t.drop name.length).head?.any endsName

/-- Whether a text starts with an end tag of the given name. -/
def startsEndTag (name : String) (t : Text) : Bool :=
  match t with
  | '<' :: '/' :: r => startsTag name r
  | _ => false

/-- The text before the first end tag of a name. -/
def beforeEndTag (name : String) : Text → Text
  | [] => []
  | c :: r => if startsEndTag name (c :: r) then [] else c :: beforeEndTag name r

/-- Where a script is read: in it, in a comment of it, or in a script in such a comment. -/
inductive ScriptPart where
  | outside | comment | nested
deriving DecidableEq

/-- The text before the end tag of a script. A comment hides the end tag of a script that started in
it; `hyphens` counts the hyphens just read, up to two. -/
def beforeScriptEnd (part : ScriptPart) (hyphens : Nat) : Text → Text
  | [] => []
  | c :: r =>
    if part ≠ .nested ∧ startsEndTag "script" (c :: r) then []
    else if c = '>' ∧ hyphens = 2 then c :: beforeScriptEnd .outside 0 r
    else if c = '-' ∧ part ≠ .outside then c :: beforeScriptEnd part (min 2 (hyphens + 1)) r
    else if c = '<' then
      match part with
      | .outside =>
        c :: beforeScriptEnd (if "!--".toList.isPrefixOf r then .comment else .outside) 0 r
      | .comment => c :: beforeScriptEnd (if startsTag "script" r then .nested else .comment) 0 r
      | .nested =>
        c :: beforeScriptEnd (if startsEndTag "script" (c :: r) then .comment else .nested) 0 r
    else c :: beforeScriptEnd part 0 r

/-- The token of an element's text, or the end tag that the text stands before; then reading is
ordinary again. -/
def nextInElement (reading : Reading) (content : Text) (t : Text) : Option Token × Text × Reading :=
  match content with
  | [] => let (token, rest) := endTagToken (t.drop 2); (token, rest, .ordinary)
  | content => (some (text content), t.drop content.length, reading)

/-- Reads one token off a text: the token if there is one, the text after it, and how to go on. -/
def next (reading : Reading) (foreign : Bool) (t : Text) : Option Token × Text × Reading :=
  match reading with
  | .ordinary => let (token, rest) := nextOrdinary foreign t; (token, rest, .ordinary)
  | .plain => (some (text (withoutNul t)), [], .plain)
  | .script =>
    let content := beforeScriptEnd .outside 0 t
    let (token, rest, reading) := nextInElement reading content t
    (match token with
      | some (text run) => some (text (withoutNul run))
      | token => token, rest, reading)
  | .untilTag name references =>
    let content := beforeEndTag name t
    let (token, rest, reading) := nextInElement reading content t
    (match token with
      | some (text run) =>
        let run := withoutNul run
        some (text (if references then Reference.resolve false run else run))
      | token => token, rest, reading)

/-- The tokens that are read at once: the null characters in unparsed text stand alone. -/
def pieces : Option Token → List Token
  | some (text run) =>
    [nul].intercalate
      ((Text.splitOn '\x00' run).map fun part => if part = [] then [] else [text part])
  | some token => [token]
  | none => []

end Token
end Gamebook.Html
