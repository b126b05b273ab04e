import StubForge.Decimal.Numeral

/-! Data as text of nested arrays and objects: the tree of a text, before it is given a meaning. -/
namespace StubForge

/-- A text is absent where an escape names half of a surrogate pair. Members keep their order and
may repeat a key. -/
inductive Json
  | null
  | bool (value : Bool)
  | number (value : Numeral)
  | string (text : Option String)
  | array (items : List Json)
  | object (members : List (Option String × Json))
  deriving Repr, Inhabited

namespace Json

def text (s : String) : Json := .string (some s)

def int (i : Int) : Json := .number (.ofInt i)

/-- An object from keys and values. -/
def record (members : List (String × Json)) : Json :=
  .object (members.map fun (key, value) => (some key, value))

end Json
end StubForge
