import StubForge.Template.Dictionary
import StubForge.Template.Parser
import StubForge.Text.Lines

/-! Named templates and what they render to. -/
namespace StubForge.Template

/-- The templates of one dialect by name. -/
structure TemplateSet where
  dialect : String
  templates : List (String × List Node)
  deriving Repr

namespace TemplateSet

def find? (set : TemplateSet) (name : String) : Option (List Node) := set.templates.lookup name

def contains (set : TemplateSet) (name : String) : Bool := (set.find? name).isSome

end TemplateSet

inductive Problem
  | unresolved (key : String)
  | notScalar (key : String)
  | missing (name dialect : String)
  | tooDeep
  deriving DecidableEq, Repr

/-- Why a template could not be rendered. -/
structure RenderFault where
  template : String
  problem : Problem
  deriving DecidableEq, Repr

def Problem.message : Problem → String
  | unresolved key => "unresolved key '" ++ key ++ "'"
  | notScalar key => "'" ++ key ++ "' is not a scalar value"
  | missing name dialect => "no template named '" ++ name ++ "' for " ++ dialect
  | tooDeep => "insertions nest too deep"

def RenderFault.message (f : RenderFault) : String := f.template ++ ": " ++ f.problem.message

/-- The innermost dictionary that has the key decides. -/
def resolve (scopes : List Dictionary) (key : String) : Option Entry :=
  scopes.findSome? (·.get? key)

/-- Missing, false and empty entries do not hold. -/
def holds : Option Entry → Bool
  | none => false
  | some (.flag value) => value
  | some (.code text) => text != ""
  | some (.dict _) => true
  | some (.list items) => !items.isEmpty

/-- The scope stacks in which the body of a section is rendered. -/
def repetitions (scopes : List Dictionary) : Option Entry → List (List Dictionary)
  | some (.dict d) => [d :: scopes]
  | some (.list items) => items.map (· :: scopes)
  | entry => if holds entry then [scopes] else []

/-- Texts one after the other, up to the first failure. -/
def concat (parts : List (Except RenderFault String)) : Except RenderFault String :=
  match parts with
  | [] => .ok ""
  | p :: r => do
    let text ← p
    let rest ← concat r
    .ok (text ++ rest)

/-- How the template of a name is rendered in a stack of scopes. -/
abbrev Renderer := String → List Dictionary → Except RenderFault String

mutual

/-- A node of the template `template`; insertions are left to `insert`. -/
def renderNode (insert : String → Renderer) (template : String) (scopes : List Dictionary) :
    Node → Except RenderFault String
  | .text text => .ok text
  | .value key =>
    match resolve scopes key with
    | some (.code text) => .ok text
    | some (.flag value) => .ok (if value then "true" else "false")
    | some _ => .error ⟨template, .notScalar key⟩
    | none => .error ⟨template, .unresolved key⟩
  | .block key true children =>
    if holds (resolve scopes key) then .ok "" else renderNodes insert template scopes children
  | .block key false children =>
    concat ((repetitions scopes (resolve scopes key)).map fun scopes =>
      renderNodes insert template scopes children)
  | .insertion name margin => (insert template name scopes).map (Text.indent margin)

def renderNodes (insert : String → Renderer) (template : String) (scopes : List Dictionary) :
    List Node → Except RenderFault String
  | [] => .ok ""
  | n :: r => do
    let text ← renderNode insert template scopes n
    let rest ← renderNodes insert template scopes r
    .ok (text ++ rest)

end

namespace TemplateSet

/-- The template `name`, named in the template `source`, with at most `depth` insertions inside
one another. -/
def renderWithin (set : TemplateSet) : Nat → String → Renderer
  | 0, source, _, _ => .error ⟨source, .tooDeep⟩
  | depth + 1, source, name, scopes =>
    match set.find? name with
    | none => .error ⟨source, .missing name set.dialect⟩
    | some nodes => renderNodes (set.renderWithin depth) name scopes nodes

/-- Insertions that come to an end by themselves never nest deeper: not those of a set without
cycles, and not those that descend into a dictionary. -/
def maxDepth (set : TemplateSet) : Nat := set.templates.length + 10000

def render (set : TemplateSet) (name : String) (d : Dictionary) : Except RenderFault String :=
  set.renderWithin set.maxDepth name name [d]

/-- The fixed text that every file starts with. -/
def header (set : TemplateSet) : Except RenderFault String := set.render "header" []

end TemplateSet

/-- A source that could not be read, and the name of its template. -/
structure LoadFault where
  template : String
  fault : SourceFault
  deriving DecidableEq, Repr

/-- The sources read in order; a later one of the same name replaces the earlier. -/
def load (dialect : String) (sources : List (String × String)) : Except LoadFault TemplateSet := do
  let templates ← sources.mapM fun (name, source) =>
    match parse source with
    | .ok nodes => .ok (name, nodes)
    | .error fault => .error (⟨name, fault⟩ : LoadFault)
  .ok ⟨dialect, templates.reverse⟩

end StubForge.Template
