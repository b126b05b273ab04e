import StubForge.Template.Node
import StubForge.Template.Token

/-! From the source of a template to its tree. -/
namespace StubForge.Template

/-- A section that is still open: its tag, and the reversal of what came before it. -/
structure OpenSection where
  key : String
  inverted : Bool
  before : List Node

/-- The tree of the tokens; `here` is the reversal of what the innermost open section holds. -/
def assemble (sections : List OpenSection) (here : List Node) :
    List Token → Except SourceFault (List Node)
  | [] =>
    match sections with
    | [] => .ok here.reverse
    | s :: _ => .error (.unclosedSection s.key)
  | .text t :: r =>
    assemble sections (if t = [] then here else .text (String.ofList t) :: here) r
  | .tag .value name _ :: r => assemble sections (.value name :: here) r
  | .tag .insertion name margin :: r =>
    assemble sections (.insertion name (String.ofList margin) :: here) r
  | .tag .comment _ _ :: r => assemble sections here r
  | .tag .opening name _ :: r => assemble (⟨name, false, here⟩ :: sections) [] r
  | .tag .inverted name _ :: r => assemble (⟨name, true, here⟩ :: sections) [] r
  | .tag .closing name _ :: r =>
    match sections with
    | [] => .error (.strayClosing name)
    | s :: outer =>
      if s.key = name then assemble outer (.block s.key s.inverted here.reverse :: s.before) r
      else .error (.crossedClosing name s.key)

def parse (source : String) : Except SourceFault (List Node) :=
  (tokens source).bind (assemble [] [])

end StubForge.Template
