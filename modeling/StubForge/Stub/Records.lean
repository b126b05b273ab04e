import StubForge.ServiceOption
import StubForge.Stub.Imports
import StubForge.Stub.Wire

/-! The dictionaries of structs, unions and exceptions. -/
namespace StubForge

def ServiceOptions.dictionary (options : ServiceOptions) : Dictionary :=
  ServiceOption.all.map fun o => (o.flagName, .flag (options.has o))

namespace Field

/-- `userName` becomes `USER_NAME_FIELD`. -/
def constantName (f : Field) : Identifier := f.name.leaf.upper.append "_FIELD"

def titleName (f : Field) : Identifier := f.name.title

def getterName (f : Field) : Identifier := f.name.title.prepend "get"

/-- What a method needs to know of an argument or an exception. -/
def parameter (n : Naming) (f : Field) : Except Fault Dictionary := do
  let type ← n.fieldType f false
  .ok [("id", .code f.id.toInt.repr), ("field_name", .code (n.identifier f.name)),
    ("FieldName", .code (n.identifier f.titleName)),
    ("getter", .code (n.identifier f.getterName)), ("field_type", .code type)]

def initialEntries : Option String → Dictionary
  | some value => [("has_default_value", .flag true), ("default_value", .code value)]
  | none => [("has_default_value", .flag false)]

/-- The methods of the protocol, where the type has them. -/
def methodEntries (f : Field) : Except Fault Dictionary :=
  if f.ty.hasProtocolMethod then do
    let read ← f.ty.readMethod
    let write ← f.ty.writeMethod
    .ok [("read_method", .code read), ("write_method", .code write)]
  else .ok []

/-- The field at the position `index` of a struct. -/
def dictionary (n : Naming) (index : Nat) (f : Field) : Except Fault Dictionary := do
  let tag ← f.ty.wireTag
  let type ← n.fieldType f false
  let plain ← n.typeName f.ty false
  let boxed ← n.typeArg f.ty false
  let readInitial ← n.readInitial f
  let initial ← n.fieldInitial? f
  let methods ← f.methodEntries
  .ok ([
    ("id", .code f.id.toInt.repr),
    ("index", .code index.repr),
    ("field_name", .code (n.identifier f.name)),
    ("FieldName", .code (n.identifier f.titleName)),
    ("getter", .code (n.identifier f.getterName)),
    ("field_name_for_wire", .code (Text.quote f.wireName)),
    ("field_const", .code (n.identifier f.constantName)),
    ("wire_tag", .code tag.name),
    ("wire_tag_code", .code tag.code.repr),
    ("field_type", .code type),
    ("primitive_field_type", .code plain),
    ("boxed_field_type", .code boxed),
    ("is_primitive", .flag f.ty.isPrimitive),
    ("is_enum", .flag (f.ty matches .enum _)),
    ("is_struct", .flag (f.ty matches .struct _)),
    ("is_container", .flag f.ty.isContainer),
    ("required", .flag f.isRequired),
    ("optional", .flag f.isOptional),
    ("nullable", .flag (f.ty.isNullable f.isOptional)),
    ("default_read_value", .code readInitial)] ++ initialEntries initial ++ methods)

/-- The fields from the position `index` on. -/
def dictionaries (n : Naming) (index : Nat) : List Field → Except Fault (List Dictionary)
  | [] => .ok []
  | f :: r => do
    let d ← f.dictionary n index
    let ds ← dictionaries n (index + 1) r
    .ok (d :: ds)

end Field

namespace Record

/-- All that does not depend on the file in which the struct stands. -/
def body (n : Naming) (s : Record) : Except Fault Dictionary := do
  let fields ← Field.dictionaries n 0 s.fields
  .ok [("StructName", .code (n.identifier s.name)),
    ("struct_name_for_wire", .code (Text.quote s.name.name)),
    ("is_union", .flag (s.kind == .union)),
    ("is_exception", .flag (s.kind == .exception)),
    ("has_fields", .flag !fields.isEmpty),
    ("fields", .list (Dictionary.markEnds fields))]

/-- The file of a struct, a union or an exception. -/
def dictionary (n : Naming) (package : Identifier) (inclusions : List Inclusion)
    (options : ServiceOptions) (s : Record) : Except Fault Dictionary := do
  let body ← s.body n
  .ok (body ++ [("package", .code (n.identifier package)),
    ("imports", .list (n.imports inclusions))] ++ options.dictionary)

end Record
end StubForge
