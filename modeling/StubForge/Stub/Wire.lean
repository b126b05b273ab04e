import StubForge.Stub.Naming

/-! How values travel: type tags, and the methods of the protocol for scalars. -/
namespace StubForge

inductive WireTag
  | void
  | bool
  | byte
  | double
  | i16
  | i32
  | i64
  | string
  | struct
  | map
  | set
  | list
  deriving DecidableEq, Repr

namespace WireTag

def code : WireTag → Nat
  | void => 1
  | bool => 2
  | byte => 3
  | double => 4
  | i16 => 6
  | i32 => 8
  | i64 => 10
  | string => 11
  | struct => 12
  | map => 13
  | set => 14
  | list => 15

/-- The constant that generated sources use. -/
def name : WireTag → String
  | void => "VOID"
  | bool => "BOOL"
  | byte => "BYTE"
  | double => "DOUBLE"
  | i16 => "I16"
  | i32 => "I32"
  | i64 => "I64"
  | string => "STRING"
  | struct => "STRUCT"
  | map => "MAP"
  | set => "SET"
  | list => "LIST"

end WireTag

namespace Ty

/-- Enums travel as integers and binaries as strings. -/
def wireTag (t : Ty) : Except Fault WireTag :=
  match t with
  | void | onewayVoid => .ok .void
  | bool => .ok .bool
  | byte => .ok .byte
  | double => .ok .double
  | i16 => .ok .i16
  | i32 | enum _ => .ok .i32
  | i64 => .ok .i64
  | string | binary => .ok .string
  | struct _ => .ok .struct
  | map _ _ => .ok .map
  | set _ => .ok .set
  | list _ => .ok .list
  | reference _ => Naming.unmapped .wireTag t

/-- What the methods of the protocol call a scalar. -/
def scalarName? : Ty → Option String
  | bool => some "Bool"
  | byte => some "Byte"
  | i16 => some "I16"
  | i32 => some "I32"
  | i64 => some "I64"
  | double => some "Double"
  | string => some "String"
  | binary => some "Binary"
  | _ => none

def hasProtocolMethod (t : Ty) : Bool := t.scalarName?.isSome

def readMethod (t : Ty) : Except Fault String :=
  match t.scalarName? with
  | some name => .ok ("read" ++ name)
  | none => Naming.unmapped .readMethod t

def writeMethod (t : Ty) : Except Fault String :=
  match t.scalarName? with
  | some name => .ok ("write" ++ name)
  | none => Naming.unmapped .writeMethod t

end Ty
end StubForge
