import StubForge.Stub.Records

/-! The dictionary of the file of a service. Each method has a struct of its arguments, and one of
its result unless nobody waits for that; they are rendered as declared structs are. -/
namespace StubForge

namespace Method

def argsName (m : Method) : Identifier := m.name.leaf.title.append "Args"

def resultName (m : Method) : Identifier := m.name.leaf.title.append "Result"

def argsRecord (m : Method) : Record := ⟨m.argsName, .struct, m.args⟩

/-- The field of the value that a method returns. -/
def successField (t : Ty) : Field := ⟨0, .simple "success", "success", t, .optional, none⟩

/-- An exception as a field of the result: optional, whatever was declared. -/
def thrownField (f : Field) : Field := { f with requiredness := .optional, initial := none }

def resultFields (m : Method) : List Field :=
  (if m.returns.isVoid then [] else [successField m.returns]) ++ m.throws.map thrownField

def resultRecord? (m : Method) : Option Record :=
  if m.oneway then none else some ⟨m.resultName, .struct, m.resultFields⟩

def dictionary (n : Naming) (m : Method) : Except Fault Dictionary := do
  let args ← m.args.mapM (·.parameter n)
  let throws ← m.throws.mapM (·.parameter n)
  let returns ← n.typeName m.returns false
  let returnsArg ← n.typeArg m.returns false
  .ok [
    ("name", .code (n.identifier m.name)),
    ("name_for_wire", .code (Text.quote m.wireName)),
    ("FunctionName", .code (n.identifier m.name.title)),
    ("return_type", .code returns),
    ("return_type_arg", .code returnsArg),
    ("is_void", .flag m.returns.isVoid),
    ("is_oneway", .flag m.oneway),
    ("has_args", .flag !args.isEmpty),
    ("args", .list (Dictionary.markEnds args)),
    ("arg_names", .code (", ".intercalate (m.args.map fun f => n.identifier f.name))),
    ("args_struct", .code (n.identifier m.argsName)),
    ("result_struct", .code (n.identifier m.resultName)),
    ("has_throws", .flag !throws.isEmpty),
    ("throws", .list (Dictionary.markEnds throws))]

/-- The structs that go with a method. -/
def records (m : Method) : List Record := m.argsRecord :: m.resultRecord?.toList

theorem eq_of_mem_records {m : Method} {r : Record} (h : r ∈ m.records) :
    r = m.argsRecord ∨ r = ⟨m.resultName, .struct, m.resultFields⟩ := by
  rw [records, List.mem_cons, resultRecord?] at h
  refine h.imp_right fun h => ?_
  split at h
  · cases h
  · exact List.mem_singleton.1 h

theorem forall_mem_resultFields {m : Method} {P : Field → Prop} (hsuccess : P (successField m.returns))
    (hthrown : ∀ f ∈ m.throws, P (thrownField f)) : ∀ f ∈ m.resultFields, P f := by
  intro f hf
  rw [resultFields, List.mem_append] at hf
  rcases hf with hf | hf
  · split at hf
    · cases hf
    · rwa [List.mem_singleton.1 hf]
  · obtain ⟨g, hg, rfl⟩ := List.mem_map.1 hf
    exact hthrown g hg

end Method

/-- A parent of an included document is written with its local name for a scope. -/
def Parent.reference (p : Parent) : Identifier :=
  match p.scope with
  | some scope => .qualified [scope.fullName, p.name.name]
  | none => p.name

namespace Service

def parentEntries (n : Naming) (s : Service) : Dictionary :=
  match s.parent with
  | some p => [("parent", .dict [("name", .code (n.namedType p.reference))])]
  | none => []

def dictionary (n : Naming) (package : Identifier) (inclusions : List Inclusion)
    (options : ServiceOptions) (s : Service) : Except Fault Dictionary := do
  let methods ← s.methods.mapM (·.dictionary n)
  let records ← (s.methods.flatMap Method.records).mapM (·.body n)
  .ok ([("package", .code (n.identifier package)),
    ("ServiceName", .code (n.identifier s.name)),
    ("imports", .list (n.imports inclusions)),
    ("has_functions", .flag !methods.isEmpty),
    ("functions", .list (Dictionary.markEnds methods)),
    ("function_structs", .list (Dictionary.markEnds records))] ++ s.parentEntries n ++
      options.dictionary)

end Service
end StubForge
