import StubForge.CommandLine.Report
import StubForge.Schema.Loading

/-! A whole call of the command line on a storage. -/
namespace StubForge.CommandLine

/-- What a call leaves behind: the storage, its output and its exit status. -/
structure Result where
  storage : FileSystem
  output : String
  status : Nat

def successStatus : Nat := 0

/-- A document could not be read or generated. -/
def failureStatus : Nat := 1

/-- The arguments did not fit. -/
def usageStatus : Nat := 2

/-- The document in a file. -/
def load (fs : FileSystem) (p : Path) : Except Fault Document :=
  match fs.read p with
  | .error problem => .error (.storage p problem)
  | .ok text => Document.ofText p.text text

/-- Documents one after another, up to the first that fails; the output so far and the number of
files, absent after a failure. -/
def generateDocuments (config : Config) (fs : FileSystem) :
    List Path → FileSystem × String × Option Nat
  | [] => (fs, "", some 0)
  | p :: r =>
    match load fs p with
    | .error _ => (fs, "", none)
    | .ok doc =>
      match generate config fs doc with
      | (fs, .error _) => (fs, "", none)
      | (fs, .ok o) =>
        let (fs, output, files) := generateDocuments config fs r
        (fs, Report.outcome config.dryRun p o ++ output, files.map (o.files.length + ·))

/-- The header stands above everything, also above a failure. -/
def runTarget (fs : FileSystem) (t : Target) (dryRun : Bool) (elapsed : String) : Result :=
  match Dialect.ofName t.language with
  | .error _ => ⟨fs, Report.header, failureStatus⟩
  | .ok dialect =>
    match generateDocuments ⟨dialect, t.out, t.options, dryRun⟩ fs t.documents with
    | (fs, output, none) => ⟨fs, Report.header ++ output, failureStatus⟩
    | (fs, output, some files) =>
      ⟨fs, Report.header ++ output ++ Report.summary t.documents.length files elapsed dryRun,
        successStatus⟩

/-- A call with the given arguments that took `elapsed` milliseconds. -/
def call (fs : FileSystem) (args : List String) (elapsed : String) : Result :=
  match readArguments args with
  | none => ⟨fs, "", usageStatus⟩
  | some .version => ⟨fs, Report.versionLine, successStatus⟩
  | some (.help topic) => ⟨fs, Report.help topic, successStatus⟩
  | some (.run _ target dryRun) => runTarget fs target dryRun elapsed

end StubForge.CommandLine
