import StubForge.Dialect.Basic
import StubForge.Schema.Document

/-! Documents in the casing of a dialect. Names that are declared stay on record, because they are
what goes over the wire. -/
namespace StubForge

def Ty.recase (d : Dialect) : Ty → Ty
  | .enum id => .enum (d.typeCase id)
  | .struct id => .struct (d.typeCase id)
  | .reference id => .reference (d.typeCase id)
  | .list item => .list (item.recase d)
  | .set item => .set (item.recase d)
  | .map key value => .map (key.recase d) (value.recase d)
  | t => t

namespace Literal

mutual

def recase (d : Dialect) : Literal → Literal
  | .enum enumeration member => .enum (d.typeCase enumeration) (d.memberCase member)
  | .list items => .list (recaseAll d items)
  | .set items => .set (recaseAll d items)
  | .map entries => .map (recaseEntries d entries)
  | v => v

def recaseAll (d : Dialect) : List Literal → List Literal
  | [] => []
  | v :: r => recase d v :: recaseAll d r

def recaseEntries (d : Dialect) : List (Literal × Literal) → List (Literal × Literal)
  | [] => []
  | (k, v) :: r => (recase d k, recase d v) :: recaseEntries d r

end

end Literal

def Field.recase (d : Dialect) (f : Field) : Field where
  id := f.id
  name := d.fieldCase f.name
  declared := f.wireName
  ty := f.ty.recase d
  requiredness := f.requiredness
  initial := f.initial.map (·.recase d)

def Constant.recase (d : Dialect) (c : Constant) : Constant where
  name := d.constantCase c.name
  ty := c.ty.recase d
  value := c.value.recase d

def Enumerator.recase (d : Dialect) (m : Enumerator) : Enumerator where
  name := d.memberCase m.name
  declared := m.wireName
  value := m.value

def Enumeration.recase (d : Dialect) (e : Enumeration) : Enumeration where
  name := d.typeCase e.name
  members := e.members.map (·.recase d)

def Record.recase (d : Dialect) (s : Record) : Record where
  name := d.typeCase s.name
  kind := s.kind
  fields := s.fields.map (·.recase d)

def Method.recase (d : Dialect) (m : Method) : Method where
  name := d.functionCase m.name
  declared := m.wireName
  returns := m.returns.recase d
  args := m.args.map (·.recase d)
  throws := m.throws.map (·.recase d)
  oneway := m.oneway

def Parent.recase (d : Dialect) (p : Parent) : Parent where
  name := d.typeCase p.name
  scope := p.scope

def Service.recase (d : Dialect) (s : Service) : Service where
  name := d.typeCase s.name
  parent := s.parent.map (·.recase d)
  methods := s.methods.map (·.recase d)

def Definitions.recase (d : Dialect) (s : Definitions) : Definitions where
  constants := s.constants.map (·.recase d)
  enumerations := s.enumerations.map (·.recase d)
  records := s.records.map (·.recase d)
  services := s.services.map (·.recase d)

namespace Document

mutual

/-- The document with every name in the casing of the dialect, and so the documents it includes.
Packages and local names of inclusions stay. -/
def recase (d : Dialect) : Document → Document
  | .mk headers definitions => .mk (recaseHeaders d headers) (definitions.recase d)

def recaseHeaders (d : Dialect) : List (Header Document) → List (Header Document)
  | [] => []
  | h :: r => recaseHeader d h :: recaseHeaders d r

def recaseHeader (d : Dialect) : Header Document → Header Document
  | .inclusion localName document => .inclusion localName (recase d document)
  | .package scope id => .package scope id

end

/-- The package that the sources of a document belong to: the first that is declared for a scope
of the dialect, scopes taken in their order. -/
def packageFor (doc : Document) (d : Dialect) : Identifier :=
  (d.packageScopes.findSome? doc.package?).getD Dialect.defaultPackage

end Document
end StubForge
