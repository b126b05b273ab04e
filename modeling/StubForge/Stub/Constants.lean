import StubForge.Stub.Imports

/-! The dictionary of the file of constants. -/
namespace StubForge

def Constant.dictionary (n : Naming) (c : Constant) : Except Fault Dictionary := do
  let type ← n.typeName c.ty false
  .ok [("name", .code (n.identifier c.name)), ("field_type", .code type),
    ("value", .code (n.literal false c.value))]

/-- All constants of a document in their order. Values may name enums of included documents, so
the file has the same imports as any other. -/
def constantsDictionary (n : Naming) (package : Identifier) (inclusions : List Inclusion)
    (constants : List Constant) : Except Fault Dictionary := do
  let items ← constants.mapM (·.dictionary n)
  .ok [("package", .code (n.identifier package)), ("imports", .list (n.imports inclusions)),
    ("constants", .list (Dictionary.markEnds items))]

end StubForge
