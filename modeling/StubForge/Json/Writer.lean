import StubForge.Json.Basic
import StubForge.Text.Quoted

/-! Writing a tree as text, without space. -/
namespace StubForge.Json

/-- The letter that stands for a character after a backslash, if it has one. -/
def shortEscape? : Char → Option Char
  | '"' => some '"'
  | '\\' => some '\\'
  | '\x08' => some 'b'
  | '\x0c' => some 'f'
  | '\n' => some 'n'
  | '\r' => some 'r'
  | '\t' => some 't'
  | _ => none

/-- One character inside a string. -/
def escape (c : Char) : List Char :=
  match shortEscape? c with
  | some letter => ['\\', letter]
  | none => if c.toNat < 0x20 then '\\' :: 'u' :: Text.hexDigits 4 c.toNat else [c]

def writeString (s : String) : List Char := '"' :: (s.toList.flatMap escape ++ ['"'])

mutual

/-- A text that is absent is written as null. -/
def write : Json → List Char
  | .null => ['n', 'u', 'l', 'l']
  | .bool true => ['t', 'r', 'u', 'e']
  | .bool false => ['f', 'a', 'l', 's', 'e']
  | .number n => n.toList
  | .string none => ['n', 'u', 'l', 'l']
  | .string (some s) => writeString s
  | .array items => '[' :: (writeItems items ++ [']'])
  | .object members => '{' :: (writeMembers members ++ ['}'])

def writeItems : List Json → List Char
  | [] => []
  | [item] => write item
  | item :: next :: r => write item ++ ',' :: writeItems (next :: r)

def writeMembers : List (Option String × Json) → List Char
  | [] => []
  | [(key, value)] => writeString (key.getD "") ++ ':' :: write value
  | (key, value) :: next :: r =>
    writeString (key.getD "") ++ ':' :: (write value ++ ',' :: writeMembers (next :: r))

end

def render (j : Json) : String := String.ofList j.write

end StubForge.Json
