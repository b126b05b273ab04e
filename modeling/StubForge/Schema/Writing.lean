import StubForge.Decimal.Layout
import StubForge.Json.Basic
import StubForge.Schema.Document

/-! Documents as data: every noun is an object with all its members. -/
namespace StubForge

def Identifier.toJson (id : Identifier) : Json := .text id.fullName

/-- A choice with content is an object whose only key names the choice. -/
def Json.choice (key : String) (content : Json) : Json := .record [(key, content)]

def Ty.toJson : Ty → Json
  | void => .text "void"
  | onewayVoid => .text "oneway_void"
  | bool => .text "bool"
  | byte => .text "byte"
  | i16 => .text "i16"
  | i32 => .text "i32"
  | i64 => .text "i64"
  | double => .text "double"
  | string => .text "string"
  | binary => .text "binary"
  | enum id => .choice "enum" id.toJson
  | struct id => .choice "struct" id.toJson
  | list item => .choice "list" item.toJson
  | set item => .choice "set" item.toJson
  | map key value => .choice "map" (.array [key.toJson, value.toJson])
  | reference id => .choice "reference" id.toJson

namespace Literal

mutual

def toJson : Literal → Json
  | .null => .text "null"
  | .string s => .choice "string" (.text s)
  | .double d => .choice "double" (.number (Decimal.documentLayout.numeral d))
  | .int i => .choice "int" (.int i.toInt)
  | .bool b => .choice "bool" (.bool b)
  | .list items => .choice "list" (.array (toJsons items))
  | .set items => .choice "set" (.array (toJsons items))
  | .map entries => .choice "map" (.array (entriesToJson entries))
  | .enum enumeration member =>
    .choice "enum" (.record [("enum_name", enumeration.toJson), ("member", member.toJson)])
  | .id name => .choice "id" name.toJson

def toJsons : List Literal → List Json
  | [] => []
  | v :: r => toJson v :: toJsons r

def entriesToJson : List (Literal × Literal) → List Json
  | [] => []
  | (k, v) :: r => .array [toJson k, toJson v] :: entriesToJson r

end

end Literal

def Json.optional (value : Option Json) : Json := value.getD .null

def Requiredness.toJson : Requiredness → Json
  | required => .text "required"
  | optional => .text "optional"
  | unmarked => .text "default"

def RecordKind.toJson : RecordKind → Json
  | struct => .text "struct"
  | union => .text "union"
  | exception => .text "exception"

def Field.toJson (f : Field) : Json :=
  .record [("id", .int f.id.toInt), ("name", f.name.toJson), ("original_name", .text f.declared),
    ("field_type", f.ty.toJson), ("requiredness", f.requiredness.toJson),
    ("default", .optional (f.initial.map (·.toJson)))]

def Constant.toJson (c : Constant) : Json :=
  .record [("name", c.name.toJson), ("field_type", c.ty.toJson), ("value", c.value.toJson)]

def Enumerator.toJson (m : Enumerator) : Json :=
  .record [("name", m.name.toJson), ("original_name", .text m.declared),
    ("value", .int m.value.toInt)]

def Enumeration.toJson (e : Enumeration) : Json :=
  .record [("name", e.name.toJson), ("values", .array (e.members.map (·.toJson)))]

def Record.toJson (s : Record) : Json :=
  .record [("name", s.name.toJson), ("kind", s.kind.toJson),
    ("fields", .array (s.fields.map (·.toJson)))]

def Method.toJson (m : Method) : Json :=
  .record [("name", m.name.toJson), ("original_name", .text m.declared),
    ("return_type", m.returns.toJson), ("args", .array (m.args.map (·.toJson))),
    ("throws", .array (m.throws.map (·.toJson))), ("oneway", .bool m.oneway)]

def Parent.toJson (p : Parent) : Json :=
  .record [("name", p.name.toJson), ("prefix", .optional (p.scope.map (·.toJson)))]

def Service.toJson (s : Service) : Json :=
  .record [("name", s.name.toJson), ("parent", .optional (s.parent.map (·.toJson))),
    ("functions", .array (s.methods.map (·.toJson)))]

namespace Document

mutual

def toJson : Document → Json
  | .mk headers d =>
    .record [("headers", .array (headersToJson headers)),
      ("consts", .array (d.constants.map (·.toJson))),
      ("enums", .array (d.enumerations.map (·.toJson))),
      ("structs", .array (d.records.map (·.toJson))),
      ("services", .array (d.services.map (·.toJson)))]

def headersToJson : List (Header Document) → List Json
  | [] => []
  | h :: r => headerToJson h :: headersToJson r

def headerToJson : Header Document → Json
  | .inclusion localName document =>
    .choice "include" (.record [("prefix", localName.toJson), ("document", toJson document)])
  | .package scope id =>
    .choice "namespace" (.record [("scope", .text scope), ("id", id.toJson)])

end

end Document
end StubForge
