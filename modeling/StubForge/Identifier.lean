import StubForge.Text.Casing

/-! Names with an optional scope, and their casing. -/
namespace StubForge

/-- A plain name, or one whose segments lead from the outermost scope to the name itself. -/
inductive Identifier
  | simple (name : String)
  | qualified (segments : List String)
  deriving DecidableEq, Repr

namespace Identifier

/-- A dotted text. -/
def parse (text : String) : Identifier :=
  match Text.splitString (· == '.') text with
  | [_] => .simple text
  | segments => .qualified segments

def segments : Identifier → List String
  | simple name => [name]
  | qualified segments => segments

/-- The last segment, empty if there is none. -/
def name (id : Identifier) : String := id.segments.getLast?.getD ""

def fullName (id : Identifier) : String := ".".intercalate id.segments

/-- A single segment is simple and several are qualified. -/
def ofSegments? : List String → Option Identifier
  | [] => none
  | [name] => some (simple name)
  | segments => some (qualified segments)

/-- The scope: all segments but the last, if there are any. -/
def qualifier : Identifier → Option Identifier
  | simple _ => none
  | qualified segments => ofSegments? segments.dropLast

def leaf (id : Identifier) : Identifier := simple id.name

/-- The last item changed. -/
def mapLast (f : String → String) : List String → List String
  | [] => []
  | [x] => [f x]
  | x :: y :: r => x :: mapLast f (y :: r)

/-- The name changed and its scope kept. -/
def mapName (f : String → String) : Identifier → Identifier
  | simple name => simple (f name)
  | qualified segments => qualified (mapLast f segments)

def prepend (before : String) (id : Identifier) : Identifier := id.mapName (before ++ ·)

def append (id : Identifier) (after : String) : Identifier := id.mapName (· ++ after)

def recase (casing : List Char → List Char) (id : Identifier) : Identifier :=
  id.mapName fun name => String.ofList (casing name.toList)

/-- `foo_bar` and `FOO_BAR` become `FooBar`. -/
def title : Identifier → Identifier := recase Text.titleCase

/-- `foo_bar` and `FOO_BAR` become `fooBar`. -/
def camel : Identifier → Identifier := recase Text.camelCase

/-- `fooBar` becomes `FOO_BAR`. -/
def upper : Identifier → Identifier := recase Text.shoutCase

/-- `FooBar` becomes `foo_bar`. -/
def lower : Identifier → Identifier := recase Text.snakeCase

@[simp] theorem segments_simple (name : String) : (simple name).segments = [name] := rfl

@[simp] theorem segments_qualified (s : List String) : (qualified s).segments = s := rfl

@[simp] theorem name_simple (name : String) : (simple name).name = name := rfl

@[simp] theorem segments_mapName (f : String → String) (id : Identifier) :
    (id.mapName f).segments = mapLast f id.segments := by cases id <;> rfl

example : (parse "shared_types.point_value").title.fullName = "shared_types.PointValue" ∧
    (parse "com.example.Foo").qualifier = some (parse "com.example") ∧
    (simple "fooBar").upper.append "_FIELD" = simple "FOO_BAR_FIELD" := by decide +kernel

end Identifier
end StubForge
