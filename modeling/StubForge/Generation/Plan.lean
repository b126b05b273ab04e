import StubForge.Generation.Construct
import StubForge.Storage.Output

/-! What is going to be written for a document. -/
namespace StubForge

/-- The files up to the first construct that has no text, and what is wrong with that. -/
structure Plan where
  package : Identifier
  directory : Path
  header : String
  files : List (Path × String)
  fault : Option Fault
  deriving DecidableEq, Repr

/-- What was generated: the package and its files in the order of generation. -/
structure Outcome where
  package : Identifier
  files : List Path
  deriving DecidableEq, Repr

namespace Plan

/-- The texts of constructs up to the first that has none. -/
def renderAll (s : Setting) (directory : Path) :
    List Construct → List (Path × String) × Option Fault
  | [] => ([], none)
  | c :: r =>
    match c.render s with
    | .error fault => ([], some fault)
    | .ok text =>
      let (files, fault) := renderAll s directory r
      ((directory.join (c.stem ++ s.naming.dialect.fileExtension), text) :: files, fault)

def ofDocument (d : Dialect) (root : Path) (options : ServiceOptions) (doc : Document) : Plan :=
  let doc := doc.recase d
  let s := Setting.ofDocument d options doc
  let directory := packageDirectory root s.package
  match d.templates.header with
  | .error f => ⟨s.package, directory, "", [], some (Construct.templateFault d "header" f)⟩
  | .ok header =>
    let (files, fault) := renderAll s directory doc.definitions.constructs
    ⟨s.package, directory, header, files, fault⟩

/-- The outcome if nothing goes wrong with the storage. -/
def outcome (p : Plan) : Except Fault Outcome :=
  match p.fault with
  | some fault => .error fault
  | none => .ok ⟨p.package, p.files.map (·.1)⟩

def writeAll (header : String) (fs : FileSystem) :
    List (Path × String) → FileSystem × Except Fault Unit
  | [] => (fs, .ok ())
  | (path, body) :: r =>
    match fs.writeFile path header body with
    | (fs, .error fault) => (fs, .error fault)
    | (fs, .ok ()) => writeAll header fs r

/-- The directory is made first. The first failure ends the work, and what was written stays. -/
def carryOut (p : Plan) (fs : FileSystem) : FileSystem × Except Fault Outcome :=
  match fs.ensureDirectory p.directory with
  | (fs, .error fault) => (fs, .error fault)
  | (fs, .ok ()) =>
    match writeAll p.header fs p.files with
    | (fs, .error fault) => (fs, .error fault)
    | (fs, .ok ()) => (fs, p.outcome)

end Plan
end StubForge
