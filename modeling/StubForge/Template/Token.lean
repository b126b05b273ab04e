import StubForge.Text.Character

/-! Tags and text of a template's source. A tag that stands alone on its line takes the line with
it, and an insertion that does so keeps the margin before it. -/
namespace StubForge.Template

inductive TagKind
  | value
  | opening
  | inverted
  | closing
  | insertion
  | comment
  deriving DecidableEq, Repr

/-- The margin of a tag is what stood before it on a line that it takes away. -/
inductive Token
  | text (text : List Char)
  | tag (kind : TagKind) (name : String) (margin : List Char)
  deriving DecidableEq, Repr

/-- What is wrong with the source of a template. -/
inductive SourceFault
  | unclosedTag
  | emptyTag
  | namelessTag
  | strayClosing (name : String)
  | crossedClosing (name opened : String)
  | unclosedSection (name : String)
  deriving DecidableEq, Repr

def SourceFault.message : SourceFault → String
  | unclosedTag => "unclosed tag"
  | emptyTag => "empty tag"
  | namelessTag => "tag without a name"
  | strayClosing name => "'\x7b\x7b/" ++ name ++ "\x7d\x7d' closes nothing"
  | crossedClosing name opened =>
    "'\x7b\x7b/" ++ name ++ "\x7d\x7d' closes section '" ++ opened ++ "'"
  | unclosedSection name => "section '" ++ name ++ "' is never closed"

def trimStart (t : List Char) : List Char := t.dropWhile Text.isBlank

/-- Without the white space at both ends. -/
def trim (t : List Char) : List Char := (trimStart (trimStart t).reverse).reverse

def sigil? : Char → Option TagKind
  | '#' => some .opening
  | '^' => some .inverted
  | '/' => some .closing
  | '>' => some .insertion
  | '!' => some .comment
  | _ => none

/-- The tag with the given text between its braces. -/
def readTag (content : List Char) : Except SourceFault Token :=
  match trim content with
  | [] => .error .emptyTag
  | c :: r =>
    match sigil? c with
    | none => .ok (.tag .value (String.ofList (c :: r)) [])
    | some .comment => .ok (.tag .comment "" [])
    | some kind =>
      if trim r = [] then .error .namelessTag
      else .ok (.tag kind (String.ofList (trim r)) [])

mutual

/-- Tokens of a source outside a tag; `held` is the reversal of the text so far. -/
def scanText (held : List Char) : List Char → Except SourceFault (List Token)
  | [] => .ok (if held = [] then [] else [.text held.reverse])
  | '{' :: '{' :: r => do
    let tokens ← scanTag [] r
    .ok (if held = [] then tokens else .text held.reverse :: tokens)
  | c :: r => scanText (c :: held) r

/-- Tokens of a source inside a tag; `held` is the reversal of its content so far. -/
def scanTag (held : List Char) : List Char → Except SourceFault (List Token)
  | [] => .error .unclosedTag
  | '}' :: '}' :: r => do
    let tag ← readTag held.reverse
    let tokens ← scanText [] r
    .ok (tag :: tokens)
  | c :: r => scanTag (c :: held) r

end

def isMargin (c : Char) : Bool := c == ' ' || c == '\t'

/-- The text behind its last line feed. -/
def lastLine? (t : List Char) : Option (List Char) :=
  if t.contains '\n' then some (t.reverse.takeWhile (· != '\n')).reverse else none

/-- The text before its first line feed, and before carriage returns that stand there. -/
def firstLine? (t : List Char) : Option (List Char) :=
  if t.contains '\n' then
    some ((t.takeWhile (· != '\n')).reverse.dropWhile (· == '\r')).reverse
  else none

/-- Nothing but spaces and tabs stands between the tag and the start of its line; the tokens
before it come nearest first. -/
def startsLine : List Token → Bool
  | [] => true
  | .tag .. :: _ => false
  | .text t :: before =>
    match lastLine? t with
    | some l => l.all isMargin
    | none => before.isEmpty && t.all isMargin

/-- Nothing but spaces and tabs stands between the tag and the end of its line. -/
def endsLine : List Token → Bool
  | [] => true
  | .tag .. :: _ => false
  | .text t :: after =>
    match firstLine? t with
    | some l => l.all isMargin
    | none => after.isEmpty && t.all isMargin

/-- Every token, and whether it is a tag alone on its line. A value never is. -/
def markAlone (before : List Token) : List Token → List (Token × Bool)
  | [] => []
  | t :: after =>
    let alone := match t with
      | .text _ | .tag .value _ _ => false
      | .tag _ _ _ => startsLine before && endsLine after
    (t, alone) :: markAlone (t :: before) after

/-- Without the rest of the line: spaces, tabs and one line end. -/
def dropLineEnd (t : List Char) : List Char :=
  match t.dropWhile isMargin with
  | '\r' :: '\n' :: r => r
  | '\n' :: r => r
  | r => r

def margin (t : List Char) : List Char := (t.reverse.takeWhile isMargin).reverse

def withoutMargin (t : List Char) : List Char := (t.reverse.dropWhile isMargin).reverse

/-- The tokens without the lines that lone tags take away. `afterLone` says that such a tag came
just before, and `held` is the margin that was before the next token. -/
def takeLines (afterLone : Bool) (held : List Char) : List (Token × Bool) → List Token
  | [] => []
  | (.text t, _) :: r =>
    let kept := if afterLone then dropLineEnd t else t
    match r with
    | (_, true) :: _ => .text (withoutMargin kept) :: takeLines false (margin kept) r
    | _ => .text kept :: takeLines false [] r
  | (.tag kind name m, alone) :: r =>
    .tag kind name (if alone && kind == .insertion then held else m) :: takeLines alone [] r

/-- The tokens of a source, lines of lone tags taken away. -/
def tokens (source : String) : Except SourceFault (List Token) :=
  (scanText [] source.toList).map fun ts => takeLines false [] (markAlone [] ts)

end StubForge.Template
