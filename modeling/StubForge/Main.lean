import StubForge.CommandLine.Session

/-! The program on a real storage. -/
open StubForge StubForge.CommandLine

/-- A file that is complete or not there at all. -/
def writeWhole (target : Path) (content : String) : IO Unit := do
  let tmp := target.text ++ ".tmp"
  try
    IO.FS.writeFile tmp content
    IO.FS.rename tmp target.text
  catch e =>
    try IO.FS.removeFile tmp catch _ => pure ()
    throw e

/-- The files of a plan. -/
def carryOutPlan (p : Plan) : IO (Except Fault Outcome) := do
  try
    IO.FS.createDirAll p.directory.text
    for (path, body) in p.files do
      writeWhole path (p.header ++ body)
    return p.outcome
  catch e => return .error (.io p.directory.text e.toString)

def generateFile (config : Config) (document : Path) : IO (Except Fault Outcome) := do
  let bytes ← try
    pure (Except.ok (← IO.FS.readBinFile document.text))
  catch e => pure (Except.error (Fault.io document.text e.toString))
  match bytes.bind (Document.ofBytes document.text) with
  | .error fault => return .error fault
  | .ok doc =>
    let plan := config.plan doc
    if config.dryRun then return plan.outcome else carryOutPlan plan

def generateFiles (t : Target) (dryRun : Bool) : IO UInt32 := do
  IO.print Report.header
  match Dialect.ofName t.language with
  | .error fault =>
    IO.eprintln fault.message
    return 1
  | .ok dialect =>
    let start ← IO.monoMsNow
    let mut files := 0
    for p in t.documents do
      match ← generateFile ⟨dialect, t.out, t.options, dryRun⟩ p with
      | .error fault =>
        IO.eprintln fault.message
        return 1
      | .ok o =>
        IO.print (Report.outcome dryRun p o)
        files := files + o.files.length
    let elapsed := (← IO.monoMsNow) - start
    IO.print (Report.summary t.documents.length files (toString elapsed) dryRun)
    return 0

def main (args : List String) : IO UInt32 := do
  match readArguments args with
  | none =>
    IO.eprintln Report.topHelp
    return 2
  | some .version =>
    IO.print Report.versionLine
    return 0
  | some (.help topic) =>
    IO.print (Report.help topic)
    return 0
  | some (.run _ target dryRun) => generateFiles target dryRun
