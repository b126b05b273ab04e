import StubForge.Decimal.Binary64
import StubForge.Identifier

/-! The values of constants and of field defaults. -/
namespace StubForge

inductive Literal
  | null
  | string (text : String)
  | double (value : Binary64)
  | int (value : Int64)
  | bool (value : Bool)
  | list (items : List Literal)
  | set (items : List Literal)
  | map (entries : List (Literal × Literal))
  | enum (enumeration member : Identifier)
  | id (name : Identifier)
  deriving Repr

namespace Literal

mutual

def same : Literal → Literal → Bool
  | .null, .null => true
  | .string a, .string b => a == b
  | .double a, .double b => a == b
  | .int a, .int b => a == b
  | .bool a, .bool b => a == b
  | .list a, .list b => sameAll a b
  | .set a, .set b => sameAll a b
  | .map a, .map b => sameEntries a b
  | .enum a m, .enum b n => a == b && m == n
  | .id a, .id b => a == b
  | _, _ => false

def sameAll : List Literal → List Literal → Bool
  | [], [] => true
  | a :: as, b :: bs => same a b && sameAll as bs
  | _, _ => false

def sameEntries : List (Literal × Literal) → List (Literal × Literal) → Bool
  | [], [] => true
  | (k, v) :: as, (l, w) :: bs => same k l && same v w && sameEntries as bs
  | _, _ => false

end

mutual

theorem same_iff : ∀ a b : Literal, same a b = true ↔ a = b
  | .null, b => by cases b <;> simp [same]
  | .string _, b => by cases b <;> simp [same]
  | .double _, b => by cases b <;> simp [same]
  | .int _, b => by cases b <;> simp [same]
  | .bool _, b => by cases b <;> simp [same]
  | .list xs, b => by cases b <;> simp [same, sameAll_iff xs]
  | .set xs, b => by cases b <;> simp [same, sameAll_iff xs]
  | .map es, b => by cases b <;> simp [same, sameEntries_iff es]
  | .enum _ _, b => by cases b <;> simp [same]
  | .id _, b => by cases b <;> simp [same]

theorem sameAll_iff : ∀ as bs : List Literal, sameAll as bs = true ↔ as = bs
  | [], bs => by cases bs <;> simp [sameAll]
  | a :: as, bs => by cases bs <;> simp [sameAll, same_iff a, sameAll_iff as]

theorem sameEntries_iff : ∀ as bs : List (Literal × Literal), sameEntries as bs = true ↔ as = bs
  | [], bs => by cases bs <;> simp [sameEntries]
  | (k, v) :: as, bs => by
    cases bs with
    | nil => simp [sameEntries]
    | cons b bs => simp [sameEntries, same_iff k, same_iff v, sameEntries_iff as, Prod.ext_iff]

end

instance : DecidableEq Literal := fun a b => decidable_of_iff _ (same_iff a b)

example : (map [(null, list [int 1])]) ≠ map [(null, set [int 1])] := by decide

end Literal
end StubForge
