/-! What can go wrong while a document is read or its sources are written. -/
namespace StubForge

/-- A mapping that is not defined for every type. -/
inductive Mapping
  | wireTag
  | typeName
  | defaultValue
  | readMethod
  | writeMethod
  deriving DecidableEq, Repr

def Mapping.name : Mapping → String
  | wireTag => "wire_tag"
  | typeName => "type_name"
  | defaultValue => "default_value"
  | readMethod => "read_method"
  | writeMethod => "write_method"

/-- `variant` is the type as it describes itself; `construct` and `dialect` say where it was met,
as far as that is known. -/
inductive Fault
  | unmapped (mapping : Mapping) (variant : String) (construct dialect : Option String)
  | io (path detail : String)
  | template (dialect construct template detail : String)
  | unsupportedDialect (name : String)
  | invalidDocument (path detail : String)
  deriving DecidableEq, Repr

namespace Fault

def whereabouts : Option String → Option String → String
  | some construct, some dialect =>
    " (while generating '" ++ construct ++ "' for " ++ dialect ++ ")"
  | some construct, none => " (while generating '" ++ construct ++ "')"
  | none, some dialect => " (for " ++ dialect ++ ")"
  | none, none => ""

def message : Fault → String
  | unmapped mapping variant construct dialect =>
    "Type `" ++ variant ++ "` cannot be handled by " ++ mapping.name ++
      whereabouts construct dialect
  | io path detail => "I/O failure on '" ++ path ++ "': " ++ detail
  | template dialect construct name detail =>
    "Template '" ++ name ++ "' failed for '" ++ construct ++ "' (" ++ dialect ++ "): " ++ detail
  | unsupportedDialect name => "Unsupported language: " ++ name
  | invalidDocument path detail => "Invalid document '" ++ path ++ "': " ++ detail

/-- A stable name of the kind of fault. -/
def code : Fault → String
  | unmapped .. => "idlgen::internal::unmapped_type"
  | io .. => "idlgen::io::write_failed"
  | template .. => "idlgen::template::render_failed"
  | unsupportedDialect _ => "idlgen::dialect::unsupported"
  | invalidDocument .. => "idlgen::input::invalid_document"

/-- What to do about it. -/
def help? : Fault → Option String
  | unmapped .. => some <|
    "The document should have been rejected by validation. " ++
    "This is a bug in the validator or in the generator's type coverage."
  | io .. => some <|
    "Nothing from this document should be considered generated. " ++
    "Fix the condition and regenerate the whole document."
  | unsupportedDialect _ => some "Supported languages are: scala, java"
  | template .. | invalidDocument .. => none

/-- The fault met in the construct `name`; what is recorded already stays. -/
def within (dialect name : String) : Fault → Fault
  | unmapped mapping variant construct recorded =>
    unmapped mapping variant (construct.or (some name)) (recorded.or (some dialect))
  | fault => fault

end Fault
end StubForge
