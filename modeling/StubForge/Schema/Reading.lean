import StubForge.Decimal.Reading
import StubForge.Json.Reader
import StubForge.Schema.Writing

/-! Documents from data. A noun may be an object or an array of its members in their order; keys
that it does not know are passed over, and members with a default may be left out. Nesting is
limited, except under unknown keys. -/
namespace StubForge

namespace Reading

/-- One level of nesting entered, if the limit allows it. -/
def enter {α : Type} (depth : Nat) (read : Nat → Option α) : Option α :=
  match depth with
  | 0 => none
  | depth + 1 => read depth

/-- The members of an object that have the given key: at most one. -/
def member? (key : String) (members : List (Option String × Json)) : Option (Option Json) :=
  match members.filter (·.1 == some key) with
  | [] => some none
  | [(_, value)] => some (some value)
  | _ => none

/-- Items for the first keys, and nothing for the others. -/
def inOrder? : List String → List Json → Option (List (Option Json))
  | [], [] => some []
  | [], _ :: _ => none
  | _ :: keys, [] => (inOrder? keys []).map (none :: ·)
  | _ :: keys, item :: items => (inOrder? keys items).map (some item :: ·)

/-- The members of a noun in the order of its keys. -/
def members? (keys : List String) : Json → Option (List (Option Json))
  | .object members => do
    guard (members.all (·.1.isSome))
    keys.mapM (member? · members)
  | .array items => inOrder? keys items
  | _ => none

def required {α : Type} (read : Json → Option α) (j : Option Json) : Option α := j.bind read

def defaulted {α : Type} (value : α) (read : Json → Option α) : Option Json → Option α
  | none => some value
  | some j => read j

/-- A member that may also be null. -/
def nullable {α : Type} (read : Json → Option α) : Option Json → Option (Option α)
  | none | some .null => some none
  | some j => (read j).map some

def readList {α : Type} (read : Nat → Json → Option α) (depth : Nat) : Json → Option (List α)
  | .array items => enter depth fun depth => items.mapM (read depth)
  | _ => none

def readString : Json → Option String
  | .string text => text
  | _ => none

def readBool : Json → Option Bool
  | .bool b => some b
  | _ => none

def readIdentifier (j : Json) : Option Identifier := (readString j).map .parse

/-- An integer from `low` up to `high`. -/
def readInt (low high : Int) : Json → Option Int
  | .number n => n.toInt?.filter fun i => low ≤ i && i ≤ high
  | _ => none

def readInt16 (j : Json) : Option Int16 := (readInt (-0x8000) 0x7fff j).map .ofInt

def readInt32 (j : Json) : Option Int32 := (readInt (-0x80000000) 0x7fffffff j).map .ofInt

def readInt64 (j : Json) : Option Int64 :=
  (readInt (-0x8000000000000000) 0x7fffffffffffffff j).map .ofInt

def readBinary64 : Json → Option Binary64
  | .number n => n.toBinary64?
  | _ => none

/-- A choice without content: its name, or an object with that key and null. -/
def readPlain {α : Type} (choices : List (String × α)) (depth : Nat) : Json → Option α
  | .string (some name) => choices.lookup name
  | .object [(some name, .null)] => enter depth fun _ => choices.lookup name
  | _ => none

def readRequiredness : Nat → Json → Option Requiredness :=
  readPlain [("required", .required), ("optional", .optional), ("default", .unmarked)]

def readRecordKind : Nat → Json → Option RecordKind :=
  readPlain [("struct", .struct), ("union", .union), ("exception", .exception)]

/-- Two values in an array of their own. -/
def readPair {α : Type} (read : Nat → Json → Option α) (depth : Nat) : Json → Option (α × α)
  | .array [first, second] => enter depth fun depth => do
    some (← read depth first, ← read depth second)
  | _ => none

def plainTypes : List (String × Ty) := [
  ("void", .void), ("oneway_void", .onewayVoid), ("bool", .bool), ("byte", .byte), ("i16", .i16),
  ("i32", .i32), ("i64", .i64), ("double", .double), ("string", .string), ("binary", .binary)]

/-- A type; its nesting, like that of values and documents, is also bounded by `limit`. -/
def readTy : Nat → Nat → Json → Option Ty
  | 0, _, _ => none
  | limit + 1, depth, j =>
    match j with
    | .object [(some "enum", content)] =>
      enter depth fun _ => (readIdentifier content).map .enum
    | .object [(some "struct", content)] =>
      enter depth fun _ => (readIdentifier content).map .struct
    | .object [(some "reference", content)] =>
      enter depth fun _ => (readIdentifier content).map .reference
    | .object [(some "list", content)] =>
      enter depth fun depth => (readTy limit depth content).map .list
    | .object [(some "set", content)] =>
      enter depth fun depth => (readTy limit depth content).map .set
    | .object [(some "map", content)] =>
      enter depth fun depth => (readPair (readTy limit) depth content).map fun (k, v) => .map k v
    | j => readPlain plainTypes depth j

def readEnumValue (depth : Nat) (j : Json) : Option Literal := enter depth fun _ => do
  let [enumeration, member] ← members? ["enum_name", "member"] j | none
  some (.enum (← required readIdentifier enumeration) (← required readIdentifier member))

def readLiteral : Nat → Nat → Json → Option Literal
  | 0, _, _ => none
  | limit + 1, depth, j =>
    match j with
    | .object [(some "string", content)] =>
      enter depth fun _ => (readString content).map .string
    | .object [(some "double", content)] =>
      enter depth fun _ => (readBinary64 content).map .double
    | .object [(some "int", content)] =>
      enter depth fun _ => (readInt64 content).map .int
    | .object [(some "bool", content)] =>
      enter depth fun _ => (readBool content).map .bool
    | .object [(some "list", content)] =>
      enter depth fun depth => (readList (readLiteral limit) depth content).map .list
    | .object [(some "set", content)] =>
      enter depth fun depth => (readList (readLiteral limit) depth content).map .set
    | .object [(some "map", content)] =>
      enter depth fun depth => (readList (readPair (readLiteral limit)) depth content).map .map
    | .object [(some "enum", content)] => enter depth fun depth => readEnumValue depth content
    | .object [(some "id", content)] =>
      enter depth fun _ => (readIdentifier content).map .id
    | j => readPlain [("null", .null)] depth j

def fieldKeys : List String :=
  ["id", "name", "original_name", "field_type", "requiredness", "default"]

def readField (depth : Nat) (j : Json) : Option Field := enter depth fun depth => do
  let [id, name, declared, ty, requiredness, initial] ← members? fieldKeys j | none
  some {
    id := ← required readInt16 id
    name := ← required readIdentifier name
    declared := ← defaulted "" readString declared
    ty := ← required (readTy (depth + 1) depth) ty
    requiredness := ← defaulted .unmarked (readRequiredness depth) requiredness
    initial := ← nullable (readLiteral (depth + 1) depth) initial }

def readConstant (depth : Nat) (j : Json) : Option Constant := enter depth fun depth => do
  let [name, ty, value] ← members? ["name", "field_type", "value"] j | none
  some {
    name := ← required readIdentifier name
    ty := ← required (readTy (depth + 1) depth) ty
    value := ← required (readLiteral (depth + 1) depth) value }

def readEnumerator (depth : Nat) (j : Json) : Option Enumerator := enter depth fun _ => do
  let [name, declared, value] ← members? ["name", "original_name", "value"] j | none
  some {
    name := ← required readIdentifier name
    declared := ← defaulted "" readString declared
    value := ← required readInt32 value }

def readEnumeration (depth : Nat) (j : Json) : Option Enumeration := enter depth fun depth => do
  let [name, values] ← members? ["name", "values"] j | none
  some {
    name := ← required readIdentifier name
    members := ← required (readList readEnumerator depth) values }

def readRecord (depth : Nat) (j : Json) : Option Record := enter depth fun depth => do
  let [name, kind, fields] ← members? ["name", "kind", "fields"] j | none
  some {
    name := ← required readIdentifier name
    kind := ← defaulted .struct (readRecordKind depth) kind
    fields := ← required (readList readField depth) fields }

def methodKeys : List String :=
  ["name", "original_name", "return_type", "args", "throws", "oneway"]

def readMethod (depth : Nat) (j : Json) : Option Method := enter depth fun depth => do
  let [name, declared, returns, args, throws, oneway] ← members? methodKeys j | none
  some {
    name := ← required readIdentifier name
    declared := ← defaulted "" readString declared
    returns := ← required (readTy (depth + 1) depth) returns
    args := ← defaulted [] (readList readField depth) args
    throws := ← defaulted [] (readList readField depth) throws
    oneway := ← defaulted false readBool oneway }

def readParent (depth : Nat) (j : Json) : Option Parent := enter depth fun _ => do
  let [name, scope] ← members? ["name", "prefix"] j | none
  some { name := ← required readIdentifier name, scope := ← nullable readIdentifier scope }

def readService (depth : Nat) (j : Json) : Option Service := enter depth fun depth => do
  let [name, parent, functions] ← members? ["name", "parent", "functions"] j | none
  some {
    name := ← required readIdentifier name
    parent := ← nullable (readParent depth) parent
    methods := ← defaulted [] (readList readMethod depth) functions }

/-- An included document; `read` reads the document. -/
def readInclusion (read : Nat → Json → Option Document) (depth : Nat) (j : Json) :
    Option Inclusion := enter depth fun depth => do
  let [localName, document] ← members? ["prefix", "document"] j | none
  some {
    localName := ← required readIdentifier localName
    document := ← required (read depth) document }

def readPackage (depth : Nat) (j : Json) : Option (Header Document) := enter depth fun _ => do
  let [scope, id] ← members? ["scope", "id"] j | none
  some (.package (← required readString scope) (← required readIdentifier id))

def readHeader (read : Nat → Json → Option Document) (depth : Nat) :
    Json → Option (Header Document)
  | .object [(some "include", content)] => enter depth fun depth =>
    (readInclusion read depth content).map fun i => .inclusion i.localName i.document
  | .object [(some "namespace", content)] => enter depth fun depth => readPackage depth content
  | _ => none

def documentKeys : List String := ["headers", "consts", "enums", "structs", "services"]

def readDocument : Nat → Nat → Json → Option Document
  | 0, _, _ => none
  | limit + 1, depth, j => enter depth fun depth => do
    let [headers, constants, enumerations, records, services] ← members? documentKeys j | none
    let headers ← defaulted [] (readList (readHeader (readDocument limit)) depth) headers
    some (.mk headers {
      constants := ← defaulted [] (readList readConstant depth) constants
      enumerations := ← defaulted [] (readList readEnumeration depth) enumerations
      records := ← defaulted [] (readList readRecord depth) records
      services := ← defaulted [] (readList readService depth) services })

/-- Levels of arrays and objects that a document may have. -/
def maxDepth : Nat := 127

end Reading

def Document.read? (text : String) : Option Document :=
  (Json.read? text).bind (Reading.readDocument (Reading.maxDepth + 1) Reading.maxDepth)

end StubForge
