import StubForge.Decimal.Layout
import StubForge.Schema.Recasing
import StubForge.Text.Quoted

/-! How names, types and values of a document are written in a dialect. -/
namespace StubForge

/-- A dialect, and the packages of the documents that are in scope under a local name. -/
structure Naming where
  dialect : Dialect
  packages : List (String × Identifier)
  deriving Repr

namespace Naming

/-- Of two inclusions under one name the later counts. -/
def ofInclusions (d : Dialect) (inclusions : List Inclusion) : Naming :=
  ⟨d, (inclusions.map fun i => (i.localName.fullName, i.document.packageFor d)).reverse⟩

def package? (n : Naming) (localName : String) : Option Identifier := n.packages.lookup localName

/-- An identifier with each segment escaped by itself. -/
def identifier (n : Naming) (id : Identifier) : String :=
  Dialect.scopeSeparator.intercalate (id.segments.map n.dialect.quoteKeyword)

/-- A reference to a type, qualified if it belongs to an included document. -/
def namedType (n : Naming) (id : Identifier) : String :=
  let name := n.dialect.quoteKeyword id.name
  match id.qualifier with
  | some scope => n.dialect.qualify scope.fullName (n.package? scope.fullName) name
  | none => name

def unmapped {α : Type} (mapping : Mapping) (t : Ty) : Except Fault α :=
  .error (.unmapped mapping t.describe none none)

/-- The name of a type, boxed if it has to serve as an argument of a generic type. The types
inside a container always do. -/
def renderType (n : Naming) (mutable boxed : Bool) : Ty → Except Fault String
  | .void | .onewayVoid => .ok (n.dialect.primitiveName .void boxed)
  | .bool => .ok (n.dialect.primitiveName .bool boxed)
  | .byte => .ok (n.dialect.primitiveName .byte boxed)
  | .i16 => .ok (n.dialect.primitiveName .i16 boxed)
  | .i32 => .ok (n.dialect.primitiveName .i32 boxed)
  | .i64 => .ok (n.dialect.primitiveName .i64 boxed)
  | .double => .ok (n.dialect.primitiveName .double boxed)
  | .string => .ok (n.dialect.primitiveName .string boxed)
  | .binary => .ok (n.dialect.primitiveName .binary boxed)
  | .enum id | .struct id => .ok (n.namedType id)
  | .list item => do
    let item ← n.renderType mutable true item
    .ok (n.dialect.containerType .list [item] mutable)
  | .set item => do
    let item ← n.renderType mutable true item
    .ok (n.dialect.containerType .set [item] mutable)
  | .map key value => do
    let key ← n.renderType mutable true key
    let value ← n.renderType mutable true value
    .ok (n.dialect.containerType .map [key, value] mutable)
  | .reference id => unmapped .typeName (.reference id)

def typeName (n : Naming) (t : Ty) (mutable : Bool) : Except Fault String :=
  n.renderType mutable false t

/-- The name of a type as the argument of a generic type. -/
def typeArg (n : Naming) (t : Ty) (mutable : Bool) : Except Fault String :=
  n.renderType mutable true t

/-- The type a field is stored in. -/
def fieldType (n : Naming) (f : Field) (mutable : Bool) : Except Fault String :=
  if f.isOptional then (n.typeArg f.ty mutable).map n.dialect.optionType
  else n.typeName f.ty mutable

def emptyContainer (n : Naming) (kind : Container) (t : Ty) (mutable : Bool) :
    Except Fault String :=
  (n.typeName t mutable).map fun name => n.dialect.emptyContainer kind name mutable

/-- The value of a type before anything is known about it. -/
def zeroValue (n : Naming) (t : Ty) (mutable : Bool) : Except Fault String :=
  match t with
  | .bool => .ok "false"
  | .byte | .i16 | .i32 | .i64 => .ok "0"
  | .double => .ok "0.0"
  | .list _ => n.emptyContainer .list t mutable
  | .set _ => n.emptyContainer .set t mutable
  | .map _ _ => n.emptyContainer .map t mutable
  | .void | .onewayVoid | .string | .binary | .enum _ | .struct _ => .ok Dialect.nullMarker
  | .reference _ => unmapped .defaultValue t

/-- An integer beyond 32 bits has a suffix. -/
def integer (i : Int64) : String :=
  let v := i.toInt
  if -0x80000000 ≤ v ∧ v < 0x80000000 then v.repr else v.repr ++ "L"

mutual

/-- A value as an expression; `mutable` chooses the containers on every level. -/
def literal (n : Naming) (mutable : Bool) : Literal → String
  | .null => Dialect.nullMarker
  | .string s => Text.quote s
  | .double d => Decimal.text d
  | .int i => integer i
  | .bool b => if b then "true" else "false"
  | .list items => n.dialect.sequenceLiteral .list (n.literals mutable items) mutable
  | .set items => n.dialect.sequenceLiteral .set (n.literals mutable items) mutable
  | .map entries => n.dialect.mapLiteral (n.literalEntries mutable entries) mutable
  | .enum enumeration member =>
    n.namedType enumeration ++ Dialect.scopeSeparator ++ n.dialect.quoteKeyword member.name
  | .id name => n.identifier name

def literals (n : Naming) (mutable : Bool) : List Literal → List String
  | [] => []
  | v :: r => n.literal mutable v :: n.literals mutable r

def literalEntries (n : Naming) (mutable : Bool) :
    List (Literal × Literal) → List (String × String)
  | [] => []
  | (k, v) :: r => (n.literal mutable k, n.literal mutable v) :: n.literalEntries mutable r

end

/-- The value a field starts with. An optional field has none, a declared default counts before
anything else, and a container without one starts empty. -/
def fieldInitial? (n : Naming) (f : Field) : Except Fault (Option String) :=
  if f.isOptional then .ok none
  else match f.initial with
    | some value => .ok (some (n.literal false value))
    | none => if f.ty.isContainer then (n.zeroValue f.ty false).map some else .ok none

/-- The value a reader starts from before it meets the field. -/
def readInitial (n : Naming) (f : Field) : Except Fault String := n.zeroValue f.ty false

end Naming
end StubForge
