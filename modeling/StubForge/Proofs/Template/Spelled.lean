import StubForge.Generation.Construct

/-! Templates whose texts are lists of characters. A check that looks into the texts of a template is
evaluated on these, as a string would have to be decoded first. -/
namespace StubForge

namespace Template

/-- A node whose texts are lists of characters. -/
inductive Spelled
  | text (chars : List Char)
  | value (key : String)
  | block (key : String) (inverted : Bool) (children : List Spelled)
  | insertion (name : String) (margin : List Char)

mutual

def Spelled.node : Spelled → Node
  | .text chars => .text (String.ofList chars)
  | .value key => .value key
  | .block key inverted children => .block key inverted (Spelled.nodes children)
  | .insertion name margin => .insertion name (String.ofList margin)

def Spelled.nodes : List Spelled → List Node
  | [] => []
  | n :: r => n.node :: Spelled.nodes r

end

def Spelled.templates : List (String × List Spelled) → List (String × List Node)
  | [] => []
  | (name, nodes) :: r => (name, Spelled.nodes nodes) :: Spelled.templates r

/-! Unification with these finds the spelled form of a template. -/

namespace Spelled

section
variable {r : List Spelled} {ns : List Node}

theorem nodes_nil : nodes [] = [] := rfl

theorem nodes_text (chars : List Char) (h : nodes r = ns) :
    nodes (.text chars :: r) = .text (String.ofList chars) :: ns := by
  rw [nodes, h]
  rfl

theorem nodes_value (key : String) (h : nodes r = ns) :
    nodes (.value key :: r) = .value key :: ns := by
  rw [nodes, h]
  rfl

theorem nodes_block (key : String) (inverted : Bool) {children : List Spelled} {ms : List Node}
    (hchildren : nodes children = ms) (h : nodes r = ns) :
    nodes (.block key inverted children :: r) = .block key inverted ms :: ns := by
  rw [nodes, h, node, hchildren]

theorem nodes_insertion (name : String) (margin : List Char) (h : nodes r = ns) :
    nodes (.insertion name margin :: r) = .insertion name (String.ofList margin) :: ns := by
  rw [nodes, h]
  rfl

theorem templates_nil : templates [] = [] := rfl

theorem templates_cons (name : String) {spelled : List (String × List Spelled)}
    {ts : List (String × List Node)} (hnodes : nodes r = ns) (h : templates spelled = ts) :
    templates ((name, r) :: spelled) = (name, ns) :: ts := by rw [templates, hnodes, h]

end

theorem nodes_eq_map (ns : List Spelled) : nodes ns = ns.map node := by
  induction ns with
  | nil => rfl
  | cons n r ih => rw [nodes, ih, List.map_cons]

theorem lookup_templates (spelled : List (String × List Spelled)) (name : String) :
    (templates spelled).lookup name = (spelled.lookup name).map nodes := by
  induction spelled with
  | nil => rfl
  | cons t spelled ih =>
    rw [templates, List.lookup_cons, List.lookup_cons, ih]
    split <;> rfl

end Spelled

end Template

open Template in
/-- The templates of a dialect in spelled form. -/
def Dialect.spelled (d : Dialect) :
    { spelled : List (String × List Spelled) // Spelled.templates spelled = d.templates.templates } := by
  cases d
  all_goals
    constructor
    simp only [Dialect.templates, scalaTemplates, javaTemplates]
    repeat' first
      | exact Spelled.nodes_nil
      | exact Spelled.templates_nil
      | apply Spelled.nodes_text
      | apply Spelled.nodes_value
      | apply Spelled.nodes_block
      | apply Spelled.nodes_insertion
      | apply Spelled.templates_cons

end StubForge
