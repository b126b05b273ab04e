import StubForge.Schema.Literal
import StubForge.Schema.Ty

/-! Interface documents: constants, enums, structs and services, with the documents they include. -/
namespace StubForge

/-- Whether a field has to be present. An unmarked field is written when it is set, and has its
default when it was absent. -/
inductive Requiredness
  | required
  | optional
  | unmarked
  deriving DecidableEq, Repr

/-- The name on the wire: the one that was declared, or the present one where that is empty. -/
def declaredName (declared : String) (name : Identifier) : String :=
  if declared = "" then name.name else declared

/-- A member of a struct, or an argument. What is `declared` is the name before any casing. -/
structure Field where
  id : Int16
  name : Identifier
  declared : String
  ty : Ty
  requiredness : Requiredness
  initial : Option Literal
  deriving DecidableEq, Repr

namespace Field

def isOptional (f : Field) : Bool := f.requiredness == .optional

def isRequired (f : Field) : Bool := f.requiredness == .required

def wireName (f : Field) : String := declaredName f.declared f.name

end Field

structure Constant where
  name : Identifier
  ty : Ty
  value : Literal
  deriving DecidableEq, Repr

structure Enumerator where
  name : Identifier
  declared : String
  value : Int32
  deriving DecidableEq, Repr

def Enumerator.wireName (m : Enumerator) : String := declaredName m.declared m.name

structure Enumeration where
  name : Identifier
  members : List Enumerator
  deriving DecidableEq, Repr

inductive RecordKind
  | struct
  | union
  | exception
  deriving DecidableEq, Repr

structure Record where
  name : Identifier
  kind : RecordKind
  fields : List Field
  deriving DecidableEq, Repr

structure Method where
  name : Identifier
  declared : String
  returns : Ty
  args : List Field
  throws : List Field
  oneway : Bool
  deriving DecidableEq, Repr

def Method.wireName (m : Method) : String := declaredName m.declared m.name

/-- The service that another extends, possibly one of an included document. -/
structure Parent where
  name : Identifier
  scope : Option Identifier
  deriving DecidableEq, Repr

structure Service where
  name : Identifier
  parent : Option Parent
  methods : List Method
  deriving DecidableEq, Repr

/-- What a document declares itself. -/
structure Definitions where
  constants : List Constant
  enumerations : List Enumeration
  records : List Record
  services : List Service
  deriving DecidableEq, Repr

/-- Another document under a local name, or the package for one kind of output. -/
inductive Header (δ : Type)
  | inclusion (localName : Identifier) (document : δ)
  | package (scope : String) (id : Identifier)
  deriving Repr

inductive Document
  | mk (headers : List (Header Document)) (definitions : Definitions)
  deriving Repr

/-- An included document and the local name of its scope. -/
structure Inclusion where
  localName : Identifier
  document : Document
  deriving Repr

namespace Document

def headers : Document → List (Header Document)
  | mk headers _ => headers

def definitions : Document → Definitions
  | mk _ definitions => definitions

@[simp] theorem headers_mk (h : List (Header Document)) (d : Definitions) :
    (mk h d).headers = h := rfl

@[simp] theorem definitions_mk (h : List (Header Document)) (d : Definitions) :
    (mk h d).definitions = d := rfl

def inclusionsOf : List (Header Document) → List Inclusion
  | [] => []
  | .inclusion localName document :: r => ⟨localName, document⟩ :: inclusionsOf r
  | .package _ _ :: r => inclusionsOf r

def inclusions (d : Document) : List Inclusion := inclusionsOf d.headers

def packageIn? (scope : String) : List (Header Document) → Option Identifier
  | [] => none
  | .inclusion _ _ :: r => packageIn? scope r
  | .package s id :: r => if s = scope then some id else packageIn? scope r

/-- The first package declared for `scope`. -/
def package? (d : Document) (scope : String) : Option Identifier := packageIn? scope d.headers

mutual

def same : Document → Document → Bool
  | .mk hs d, .mk ks e => sameHeaders hs ks && d == e

def sameHeaders : List (Header Document) → List (Header Document) → Bool
  | [], [] => true
  | h :: hs, k :: ks => sameHeader h k && sameHeaders hs ks
  | _, _ => false

def sameHeader : Header Document → Header Document → Bool
  | .inclusion a d, .inclusion b e => a == b && same d e
  | .package s i, .package t j => s == t && i == j
  | _, _ => false

end

mutual

theorem same_iff : ∀ a b : Document, same a b = true ↔ a = b
  | .mk hs d, .mk ks e => by simp [same, sameHeaders_iff hs]

theorem sameHeaders_iff : ∀ hs ks : List (Header Document), sameHeaders hs ks = true ↔ hs = ks
  | [], ks => by cases ks <;> simp [sameHeaders]
  | h :: hs, ks => by cases ks <;> simp [sameHeaders, sameHeader_iff h, sameHeaders_iff hs]

theorem sameHeader_iff : ∀ h k : Header Document, sameHeader h k = true ↔ h = k
  | .inclusion a d, k => by cases k <;> simp [sameHeader, same_iff d]
  | .package s i, k => by cases k <;> simp [sameHeader]

end

instance : DecidableEq Document := fun a b => decidable_of_iff _ (same_iff a b)

end Document
end StubForge
