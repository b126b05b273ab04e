import StubForge.Stub.Imports

/-! The dictionary of the file of an enum. -/
namespace StubForge

def Enumerator.dictionary (n : Naming) (m : Enumerator) : Dictionary :=
  [("name", .code (n.identifier m.name)), ("original_name", .code (Text.quote m.wireName)),
    ("value", .code m.value.toInt.repr)]

def Enumeration.dictionary (n : Naming) (package : Identifier) (e : Enumeration) : Dictionary :=
  [("package", .code (n.identifier package)), ("EnumName", .code (n.identifier e.name)),
    ("values", .list (Dictionary.markEnds (e.members.map (·.dictionary n))))]

end StubForge
