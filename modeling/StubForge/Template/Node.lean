/-! The tree of a template. -/
namespace StubForge.Template

/-- Literal text; the entry under a key; a part that stands under a condition or is repeated; and
another template in place, each of its lines behind the margin. -/
inductive Node
  | text (text : String)
  | value (key : String)
  | block (key : String) (inverted : Bool) (children : List Node)
  | insertion (name : String) (margin : String)
  deriving Repr

/-- A part that is rendered under a condition, or once for each item of a list. -/
abbrev Node.when (key : String) (children : List Node) : Node := .block key false children

/-- A part that is rendered if the key is missing, false or empty. -/
abbrev Node.unless (key : String) (children : List Node) : Node := .block key true children

end StubForge.Template
