import StubForge.Identifier

/-! The types that fields, constants and functions can have. -/
namespace StubForge

/-- A reference is a name that was not resolved to an enum or a struct. -/
inductive Ty
  | void
  | onewayVoid
  | bool
  | byte
  | i16
  | i32
  | i64
  | double
  | string
  | binary
  | enum (id : Identifier)
  | struct (id : Identifier)
  | list (item : Ty)
  | set (item : Ty)
  | map (key value : Ty)
  | reference (id : Identifier)
  deriving DecidableEq, Repr

namespace Ty

def isContainer : Ty → Bool
  | list _ | set _ | map _ _ => true
  | _ => false

def isVoid : Ty → Bool
  | void | onewayVoid => true
  | _ => false

/-- The name of an enum, a struct or an unresolved type. -/
def named? : Ty → Option Identifier
  | enum id | struct id | reference id => some id
  | _ => none

/-- The type as messages spell it. -/
def describe : Ty → String
  | void => "void"
  | onewayVoid => "oneway void"
  | bool => "bool"
  | byte => "byte"
  | i16 => "i16"
  | i32 => "i32"
  | i64 => "i64"
  | double => "double"
  | string => "string"
  | binary => "binary"
  | enum id => "enum " ++ id.fullName
  | struct id => "struct " ++ id.fullName
  | list item => "list<" ++ item.describe ++ ">"
  | set item => "set<" ++ item.describe ++ ">"
  | map key value => "map<" ++ key.describe ++ ", " ++ value.describe ++ ">"
  | reference id => "unresolved reference " ++ id.fullName

/-- Fixed-width scalars and the absence of a value. -/
def isPrimitive : Ty → Bool
  | void | onewayVoid | bool | byte | i16 | i32 | i64 | double => true
  | _ => false

/-- An absent value can be told by null. That of an optional field is told otherwise. -/
def isNullable (optional : Bool) : Ty → Bool
  | bool | byte | i16 | i32 | i64 | double => false
  | _ => !optional

/-- The named types inside, with the type itself: left to right, a key before its value. -/
def names : Ty → List Ty
  | list item | set item => item.names
  | map key value => key.names ++ value.names
  | enum id => [enum id]
  | struct id => [struct id]
  | reference id => [reference id]
  | _ => []

example : (map string (list i32)).describe = "map<string, list<i32>>" := by decide +kernel

end Ty
end StubForge
