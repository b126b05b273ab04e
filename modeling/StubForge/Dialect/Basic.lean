import StubForge.Fault
import StubForge.Identifier

/-! The output dialects: how each of them names, escapes and combines. -/
namespace StubForge

inductive Dialect
  | scala
  | java
  deriving DecidableEq, Repr

/-- The three shapes of a container. -/
inductive Container
  | list
  | set
  | map
  deriving DecidableEq, Repr

/-- Scalars with a fixed spelling. -/
inductive Primitive
  | void
  | bool
  | byte
  | i16
  | i32
  | i64
  | double
  | string
  | binary
  deriving DecidableEq, Repr

namespace Dialect

def name : Dialect → String
  | scala => "scala"
  | java => "java"

def ofName (name : String) : Except Fault Dialect :=
  if name = "scala" then .ok scala
  else if name = "java" then .ok java
  else .error (.unsupportedDialect name)

@[simp] theorem ofName_name (d : Dialect) : ofName d.name = .ok d := by cases d <;> rfl

def fileExtension : Dialect → String
  | scala => ".scala"
  | java => ".java"

/-- The scopes whose package counts, the first that is declared deciding. -/
def packageScopes : Dialect → List String
  | scala => ["scala", "java", "*"]
  | java => ["java", "*"]

def defaultPackage : Identifier := .parse "thrift"

def scopeSeparator : String := "."

def nullMarker : String := "null"

/-! ## Casing and keywords -/

def typeCase (_ : Dialect) (id : Identifier) : Identifier := id.title

def fieldCase (_ : Dialect) (id : Identifier) : Identifier := id.camel

def functionCase (_ : Dialect) (id : Identifier) : Identifier := id.camel

def memberCase : Dialect → Identifier → Identifier
  | scala, id => id.title
  | java, id => id.upper

/-- Constants keep their names. -/
def constantCase (_ : Dialect) (id : Identifier) : Identifier := id

def keywords : Dialect → List String
  | scala => [
    "abstract", "case", "catch", "class", "def", "do", "else", "extends", "false", "final",
    "finally", "for", "forSome", "if", "implicit", "import", "lazy", "match", "new", "null",
    "object", "override", "package", "private", "protected", "return", "sealed", "super",
    "this", "throw", "trait", "true", "try", "type", "val", "var", "while", "with", "yield"]
  | java => [
    "abstract", "assert", "boolean", "break", "byte", "case", "catch", "char", "class", "const",
    "continue", "default", "do", "double", "else", "enum", "extends", "false", "final",
    "finally", "float", "for", "goto", "if", "implements", "import", "instanceof", "int",
    "interface", "long", "native", "new", "null", "package", "private", "protected", "public",
    "return", "short", "static", "strictfp", "super", "switch", "synchronized", "this",
    "throw", "throws", "transient", "true", "try", "void", "volatile", "while"]

/-- A keyword has small letters only, but for the `S` in `forSome`. -/
theorem notMem_keywords {d : Dialect} {name : String} {c : Char} (hmem : c ∈ name.toList)
    (hlower : c.isLower = false) (hne : c ≠ 'S') : name ∉ d.keywords := by
  have hsmall : (d.keywords.all fun k => k.toList.all fun c => c.isLower || c == 'S') = true := by
    cases d <;> decide +kernel
  intro hkeyword
  have hchar := List.all_eq_true.1 (List.all_eq_true.1 hsmall name hkeyword) c hmem
  rw [hlower, Bool.false_or, beq_iff_eq] at hchar
  exact hne hchar

def isKeyword (d : Dialect) (name : String) : Bool := d.keywords.contains name

def escape : Dialect → String → String
  | scala, name => "`" ++ name ++ "`"
  | java, name => name ++ "_"

/-- A name as it may stand in a source. -/
def quoteKeyword (d : Dialect) (name : String) : String :=
  if d.isKeyword name then d.escape name else name

/-! ## Types and literals -/

/-- A boxed primitive can be the argument of a generic type. -/
def primitiveName : Dialect → Primitive → Bool → String
  | scala, .void, _ => "Unit"
  | scala, .bool, _ => "Boolean"
  | scala, .byte, _ => "Byte"
  | scala, .i16, _ => "Short"
  | scala, .i32, _ => "Int"
  | scala, .i64, _ => "Long"
  | scala, .double, _ => "Double"
  | java, .void, false => "void"
  | java, .void, true => "Void"
  | java, .bool, false => "boolean"
  | java, .bool, true => "Boolean"
  | java, .byte, false => "byte"
  | java, .byte, true => "Byte"
  | java, .i16, false => "short"
  | java, .i16, true => "Short"
  | java, .i32, false => "int"
  | java, .i32, true => "Integer"
  | java, .i64, false => "long"
  | java, .i64, true => "Long"
  | java, .double, false => "double"
  | java, .double, true => "Double"
  | _, .string, _ => "String"
  | _, .binary, _ => "ByteBuffer"

def containerBase : Dialect → Container → Bool → String
  | scala, .list, false => "Seq"
  | scala, .list, true => "mutable.Buffer"
  | scala, .set, false => "Set"
  | scala, .set, true => "mutable.Set"
  | scala, .map, false => "Map"
  | scala, .map, true => "mutable.Map"
  | java, .list, false => "List"
  | java, .list, true => "ArrayList"
  | java, .set, false => "Set"
  | java, .set, true => "HashSet"
  | java, .map, false => "Map"
  | java, .map, true => "HashMap"

def commaSeparated (items : List String) : String := ", ".intercalate items

/-- The type of a container with the given element types: one, or key and value. -/
def containerType (d : Dialect) (kind : Container) (args : List String) (mutable : Bool) :
    String :=
  match d with
  | scala => d.containerBase kind mutable ++ "[" ++ commaSeparated args ++ "]"
  | java => d.containerBase kind mutable ++ "<" ++ commaSeparated args ++ ">"

/-- The type of a field whose absence has a meaning. -/
def optionType : Dialect → String → String
  | scala, inner => "Option[" ++ inner ++ "]"
  | java, inner => "Optional<" ++ inner ++ ">"

/-- A list or a set of elements. A map has no literal of this form, and is written as a list. -/
def sequenceLiteral (d : Dialect) (kind : Container) (items : List String) (mutable : Bool) :
    String :=
  let items := commaSeparated items
  match d, kind, mutable with
  | scala, .set, false => "Set(" ++ items ++ ")"
  | scala, .set, true => "mutable.Set(" ++ items ++ ")"
  | scala, _, false => "Seq(" ++ items ++ ")"
  | scala, _, true => "mutable.Buffer(" ++ items ++ ")"
  | java, .set, false => "Set.of(" ++ items ++ ")"
  | java, .set, true => "new HashSet<>(Arrays.asList(" ++ items ++ "))"
  | java, _, false => "List.of(" ++ items ++ ")"
  | java, _, true => "new ArrayList<>(Arrays.asList(" ++ items ++ "))"

def mapEntry : Dialect → String × String → String
  | scala, (key, value) => key ++ " -> " ++ value
  | java, (key, value) => "Map.entry(" ++ key ++ ", " ++ value ++ ")"

def mapLiteral (d : Dialect) (entries : List (String × String)) (mutable : Bool) : String :=
  let entries := commaSeparated (entries.map d.mapEntry)
  match d, mutable with
  | scala, false => "Map(" ++ entries ++ ")"
  | scala, true => "mutable.Map(" ++ entries ++ ")"
  | java, false => "Map.ofEntries(" ++ entries ++ ")"
  | java, true => "new HashMap<>(Map.ofEntries(" ++ entries ++ "))"

/-- An empty container of the type `typeName`. -/
def emptyContainer : Dialect → Container → String → Bool → String
  | scala, _, typeName, _ => typeName ++ "()"
  | java, .list, _, false => "List.of()"
  | java, .list, _, true => "new ArrayList<>()"
  | java, .set, _, false => "Set.of()"
  | java, .set, _, true => "new HashSet<>()"
  | java, .map, _, false => "Map.of()"
  | java, .map, _, true => "new HashMap<>()"

/-- A name of the document included as `localName`, whose package is given when it is known. Scala
imports the document under its local name between underscores, and Java names the package. -/
def qualify : Dialect → String → Option Identifier → String → String
  | scala, localName, _, name => "_" ++ localName ++ "_." ++ name
  | java, _, some package, name => package.fullName ++ "." ++ name
  | java, localName, none, name => localName ++ "." ++ name

example : java.quoteKeyword "class" = "class_" ∧ scala.quoteKeyword "val" = "`val`" := by decide

end Dialect
end StubForge
