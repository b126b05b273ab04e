import StubForge.Dialect.JavaTemplates
import StubForge.Dialect.ScalaTemplates
import StubForge.Stub.Constants
import StubForge.Stub.Enumerations
import StubForge.Stub.Services

/-! The constructs of a document that have a file each, and the text of such a file. -/
namespace StubForge

def Dialect.templates : Dialect → Template.TemplateSet
  | scala => scalaTemplates
  | java => javaTemplates

/-- What the files of one document have in common. -/
structure Setting where
  naming : Naming
  package : Identifier
  inclusions : List Inclusion
  options : ServiceOptions

/-- A document that is in the casing of the dialect already. -/
def Setting.ofDocument (d : Dialect) (options : ServiceOptions) (doc : Document) : Setting where
  naming := .ofInclusions d doc.inclusions
  package := doc.packageFor d
  inclusions := doc.inclusions
  options := options

inductive Construct
  | constants (items : List Constant)
  | enumeration (e : Enumeration)
  | record (r : Record)
  | service (s : Service)
  deriving DecidableEq, Repr

namespace Construct

/-- The name of the file without its extension, and of the construct in messages. -/
def stem : Construct → String
  | constants _ => "Constants"
  | enumeration e => e.name.name
  | record r => r.name.name
  | service s => s.name.name

def template : Construct → String
  | constants _ => "consts"
  | enumeration _ => "enum"
  | record r => if r.kind = .union then "union" else "struct"
  | service _ => "service"

def dictionary (s : Setting) : Construct → Except Fault Dictionary
  | constants items => constantsDictionary s.naming s.package s.inclusions items
  | enumeration e => .ok (e.dictionary s.naming s.package)
  | record r => r.dictionary s.naming s.package s.inclusions s.options
  | service v => v.dictionary s.naming s.package s.inclusions s.options

def templateFault (d : Dialect) (construct : String) (f : Template.RenderFault) : Fault :=
  .template d.name construct f.template f.problem.message

/-- The text below the header. -/
def render (s : Setting) (c : Construct) : Except Fault String :=
  let d := s.naming.dialect
  match c.dictionary s with
  | .error fault => .error (fault.within d.name c.stem)
  | .ok dict => (d.templates.render c.template dict).mapError (templateFault d c.stem)

end Construct

/-- Constants come first and share a file; then each enum, struct and service has its own. -/
def Definitions.constructs (d : Definitions) : List Construct :=
  (if d.constants.isEmpty then [] else [.constants d.constants]) ++
    d.enumerations.map .enumeration ++ d.records.map .record ++ d.services.map .service

end StubForge
