import StubForge.Fault
import StubForge.Identifier
import StubForge.Storage.FileSystem

/-! Where sources go and how they are written: first to a temporary file beside the target, which
then takes its place, so that the target is never half written. -/
namespace StubForge

/-- One directory for each segment of the package. -/
def packageDirectory (root : Path) (package : Identifier) : Path :=
  package.segments.foldl Path.join root

def Fault.storage (p : Path) (problem : PathProblem) : Fault := .io p.text problem.detail

namespace FileSystem

/-- The directory and all above it. One that is there already is fine. -/
def ensureDirectory (fs : FileSystem) (p : Path) : FileSystem × Except Fault Unit :=
  let (fs, made) := fs.makeDirectories p
  (fs, made.mapError (.storage p))

/-- A name that nothing stored has: longer than each of theirs. -/
def freshName (fs : FileSystem) : String :=
  let longest := (fs.nodes.flatMap (·.1)).foldl (fun n name => max n name.length) 0
  ".tmp" ++ String.ofList (List.replicate longest '_')

/-- Bytes of the name of a temporary file. -/
def temporaryBytes : Nat := 10

/-- The directory for a temporary file, whose own path from the root has to be short enough. -/
def temporaryPlace (fs : FileSystem) (dir : Path) : Except PathProblem Location := do
  let here ← fs.directoryAt (if dir.text = "" then ⟨"."⟩ else dir)
  let above := ((Path.ofNames fs.home).join dir.text).join ""
  if maxPathBytes < above.text.utf8ByteSize + temporaryBytes then .error .nameTooLong
  else .ok here

/-- The temporary file at `tmp` in the place of the target. -/
def takePlace (fs : FileSystem) (tmp : Location) (target : Path) (content : String) :
    Except PathProblem FileSystem :=
  (fs.locate target).bind fun l =>
    if target.endsInFiller then .error .notDirectory
    else if fs.node? l = some .directory then .error .isDirectory
    else if fs.refuses .rename l then .error .refused
    else .ok ((fs.remove tmp).put l (.file content))

/-- The text `header` and `body` in the file `target`. The temporary file goes away if any step
fails after it was created. -/
def writeFile (fs : FileSystem) (target : Path) (header body : String) :
    FileSystem × Except Fault Unit :=
  match target.parent? with
  | none => (fs, .error (.storage target .noParent))
  | some dir =>
    match fs.temporaryPlace dir with
    | .error problem => (fs, .error (.storage dir problem))
    | .ok here =>
      let tmp := here ++ [fs.freshName]
      if fs.refuses .createTemporary tmp then (fs, .error (.storage dir .refused))
      else
        let fs := fs.put tmp (.file "")
        let fail (fs : FileSystem) (p : Path) (problem : PathProblem) :
            FileSystem × Except Fault Unit := (fs.remove tmp, .error (.storage p problem))
        let tmpPath := dir.join (tmp.getLast?.getD "")
        if fs.refuses .writeHeader tmp then fail fs tmpPath .refused
        else
          let fs := fs.put tmp (.file header)
          if fs.refuses .writeBody tmp then fail fs tmpPath .refused
          else
            let fs := fs.put tmp (.file (header ++ body))
            if fs.refuses .flush tmp then fail fs tmpPath .refused
            else if fs.refuses .setPermissions tmp then fail fs tmpPath .refused
            else match fs.takePlace tmp target (header ++ body) with
              | .error problem => fail fs target problem
              | .ok fs => (fs, .ok ())

end FileSystem
end StubForge
