import StubForge.Generation.Plan

/-! Runs of the generator, and sequences of them into one storage. -/
namespace StubForge

/-- How a document is generated: in a dialect, below a root directory, with optional sections. A
dry run writes nothing. -/
structure Config where
  dialect : Dialect
  root : Path
  options : ServiceOptions
  dryRun : Bool
  deriving DecidableEq, Repr

def Config.plan (c : Config) (doc : Document) : Plan := .ofDocument c.dialect c.root c.options doc

/-- Every file of a document. -/
def generate (c : Config) (fs : FileSystem) (doc : Document) : FileSystem × Except Fault Outcome :=
  if c.dryRun then (fs, (c.plan doc).outcome) else (c.plan doc).carryOut fs

/-- One run after another, and the outcome of each. -/
def generateAll (fs : FileSystem) :
    List (Config × Document) → FileSystem × List (Except Fault Outcome)
  | [] => (fs, [])
  | (c, doc) :: r =>
    let (fs, outcome) := generate c fs doc
    let (fs, outcomes) := generateAll fs r
    (fs, outcome :: outcomes)

theorem generate_dryRun {c : Config} (h : c.dryRun = true) (fs : FileSystem) (doc : Document) :
    generate c fs doc = (fs, (c.plan doc).outcome) := by simp [generate, h]

end StubForge
