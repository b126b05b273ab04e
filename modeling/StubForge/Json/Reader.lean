import StubForge.Json.Basic
import StubForge.Text.Quoted

/-! Reading the tree of a text. Every scanner answers with the text that is left. -/
namespace StubForge.Json

def isSpace (c : Char) : Bool := c == ' ' || c == '\t' || c == '\n' || c == '\r'

def skipSpace (t : List Char) : List Char := t.dropWhile isSpace

/-- What an escape or a plain character contributes to a string. -/
inductive Piece
  | char (c : Char)
  | unit (code : Nat)
  deriving DecidableEq, Repr

def plainEscape? : Char → Option Char
  | '"' => some '"'
  | '\\' => some '\\'
  | '/' => some '/'
  | 'b' => some '\x08'
  | 'f' => some '\x0c'
  | 'n' => some '\n'
  | 'r' => some '\r'
  | 't' => some '\t'
  | _ => none

/-- The pieces of a string up to its closing quote. Control characters have to be escaped. -/
def readPieces : List Char → Option (List Piece × List Char)
  | [] => none
  | '"' :: r => some ([], r)
  | '\\' :: 'u' :: a :: b :: c :: d :: r => do
    let code ← Text.readHex? [a, b, c, d]
    let (pieces, r) ← readPieces r
    some (.unit code :: pieces, r)
  | '\\' :: e :: r => do
    let c ← plainEscape? e
    let (pieces, r) ← readPieces r
    some (.char c :: pieces, r)
  | c :: r => do
    guard (0x20 ≤ c.toNat)
    let (pieces, r) ← readPieces r
    some (.char c :: pieces, r)

def isHighSurrogate (code : Nat) : Bool := 0xd800 ≤ code && code < 0xdc00

def isLowSurrogate (code : Nat) : Bool := 0xdc00 ≤ code && code < 0xe000

/-- The text of the pieces, in which surrogates come in pairs. -/
def joinPieces : List Piece → Option (List Char)
  | [] => some []
  | .char c :: r => (joinPieces r).map (c :: ·)
  | .unit high :: .unit low :: r =>
    if isHighSurrogate high then
      if isLowSurrogate low then
        (joinPieces r).map
          (Char.ofNat (0x10000 + (high - 0xd800) * 0x400 + (low - 0xdc00)) :: ·)
      else none
    else if isLowSurrogate high then none
    else (joinPieces (.unit low :: r)).map (Char.ofNat high :: ·)
  | .unit code :: r =>
    if isHighSurrogate code || isLowSurrogate code then none
    else (joinPieces r).map (Char.ofNat code :: ·)

/-- A string after its opening quote. -/
def readString (t : List Char) : Option (Option String × List Char) := do
  let (pieces, r) ← readPieces t
  some ((joinPieces pieces).map String.ofList, r)

/-- One digit or more. -/
def readDigits (t : List Char) : Option (List Char × List Char) :=
  match t.takeWhile Char.isDigit with
  | [] => none
  | ds => some (ds, t.dropWhile Char.isDigit)

/-- Digits without a leading zero, or a zero alone. -/
def readWhole : List Char → Option (List Char × List Char)
  | '0' :: r => some (['0'], r)
  | t => readDigits t

/-- The digits after a point, if there is one. -/
def readPlaces : List Char → Option (List Char × List Char)
  | '.' :: r => readDigits r
  | t => some ([], t)

def readSign : List Char → Bool × List Char
  | '-' :: r => (true, r)
  | '+' :: r => (false, r)
  | t => (false, t)

/-- The power of ten after an `e`, if there is one. -/
def readExponent : List Char → Option (Option Int × List Char)
  | c :: r =>
    if c = 'e' ∨ c = 'E' then
      let (negative, r) := readSign r
      (readDigits r).map fun (ds, r) =>
        let value : Int := Nat.ofDigitChars 10 ds 0
        (some (if negative then -value else value), r)
    else some (none, c :: r)
  | [] => some (none, [])

def readNumeral (t : List Char) : Option (Numeral × List Char) := do
  let (negative, t) := match t with
    | '-' :: r => (true, r)
    | t => (false, t)
  let (whole, t) ← readWhole t
  let (places, t) ← readPlaces t
  let (exponent, t) ← readExponent t
  some (⟨negative, whole, places, exponent⟩, t)

def readWord : List Char → Option (Json × List Char)
  | 'n' :: 'u' :: 'l' :: 'l' :: r => some (.null, r)
  | 't' :: 'r' :: 'u' :: 'e' :: r => some (.bool true, r)
  | 'f' :: 'a' :: 'l' :: 's' :: 'e' :: r => some (.bool false, r)
  | _ => none

mutual

/-- The value at the start of a text. Each level of nesting and each item takes one unit of fuel,
and at least one character. -/
def readValue : Nat → List Char → Option (Json × List Char)
  | 0, _ => none
  | fuel + 1, t =>
    match skipSpace t with
    | '"' :: r => (readString r).map fun (s, r) => (.string s, r)
    | '[' :: r =>
      match skipSpace r with
      | ']' :: r => some (.array [], r)
      | _ => (readItems fuel r).map fun (items, r) => (.array items, r)
    | '{' :: r =>
      match skipSpace r with
      | '}' :: r => some (.object [], r)
      | _ => (readMembers fuel r).map fun (members, r) => (.object members, r)
    | r => (readWord r).or ((readNumeral r).map fun (n, r) => (.number n, r))

/-- Items up to the closing bracket. -/
def readItems : Nat → List Char → Option (List Json × List Char)
  | 0, _ => none
  | fuel + 1, t =>
    match readValue fuel t with
    | none => none
    | some (item, r) =>
      match skipSpace r with
      | ',' :: r => (readItems fuel r).map fun (items, r) => (item :: items, r)
      | ']' :: r => some ([item], r)
      | _ => none

/-- Members up to the closing brace. -/
def readMembers : Nat → List Char → Option (List (Option String × Json) × List Char)
  | 0, _ => none
  | fuel + 1, t =>
    match skipSpace t with
    | '"' :: r =>
      match readString r with
      | none => none
      | some (key, r) =>
        match skipSpace r with
        | ':' :: r =>
          match readValue fuel r with
          | none => none
          | some (value, r) =>
            match skipSpace r with
            | ',' :: r => (readMembers fuel r).map fun (members, r) => ((key, value) :: members, r)
            | '}' :: r => some ([(key, value)], r)
            | _ => none
        | _ => none
    | _ => none

end

/-- The value at the start of a text and the text after it. -/
def readFront? (t : List Char) : Option (Json × List Char) := readValue (2 * t.length + 2) t

/-- The value that makes up a whole text, space around it aside. -/
def read? (text : String) : Option Json :=
  match readFront? text.toList with
  | some (value, r) => if skipSpace r = [] then some value else none
  | none => none

end StubForge.Json
