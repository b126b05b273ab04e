import StubForge.Proofs.Storage.Output

/-! Writing a file is all or nothing. Between its steps there is at most a temporary file more than
before, and it goes away whichever step fails. -/
namespace StubForge.FileSystem

variable {fs fs' : FileSystem}

/-! ## Nothing -/

/-- The same directories and files at the same places. -/
structure Same (fs fs' : FileSystem) : Prop where
  home : fs'.home = fs.home
  node? : ∀ l, fs'.node? l = fs.node? l

namespace Same

variable (h : Same fs fs')
include h

theorem walk (here : Location) (steps : List Path.Component) :
    fs'.walk here steps = fs.walk here steps := by
  induction steps generalizing here with
  | nil => rfl
  | cons step steps ih =>
    cases step with
    | name name =>
      rw [FileSystem.walk, FileSystem.walk, h.node?]
      simp only [ih]
    | _ => exact ih _

theorem locate (p : Path) : fs'.locate p = fs.locate p := by
  simp only [FileSystem.locate, h.home, h.walk]

/-- Each path leads to the content to which it led before, or to none for the same reason. -/
theorem read (p : Path) : fs'.read p = fs.read p := by
  simp only [FileSystem.read, h.locate, h.node?]

end Same

theorem same_of_writeFile_error {target : Path} {header body : String} {fault : Fault}
    (h : fs.writeFile target header body = (fs', .error fault)) : Same fs fs' := by
  obtain ⟨hhome, hnode⟩ := unchanged_of_writeFile_error h
  exact ⟨hhome, hnode⟩

/-! ## All -/

/-- Nothing prevents that a file is written to `target`, which is at `l`: there is a directory for
the temporary file, no step on it fails, and it can take the place of what is there. -/
structure Admits (fs : FileSystem) (target : Path) (l : Location) : Prop where
  drafted : ∃ dir here, target.parent? = some dir ∧ fs.temporaryPlace dir = .ok here ∧
    ∀ step ∈ draftSteps, fs.refuses step (here ++ [fs.freshName]) = false
  located : fs.locate target = .ok l
  noFiller : target.endsInFiller = false
  noDirectory : fs.node? l ≠ some .directory
  renamed : fs.refuses .rename l = false

theorem Admits.exists_eq_ok {target : Path} {l : Location} (h : fs.Admits target l)
    (header body : String) : ∃ fs', fs.writeFile target header body = (fs', .ok ()) := by
  obtain ⟨dir, here, hparent, hplace, hsteps⟩ := h.drafted
  have htmp : here ++ [fs.freshName] ≠ [] :=
    List.append_ne_nil_of_right_ne_nil _ (List.cons_ne_nil _ _)
  -- The temporary file is neither on the way to the target nor a directory in its place.
  have hlocated := (keeps_put_file (fs.node?_freshName here) (header ++ body)).locate h.located
  have hnode := mt ((fs.keeps_of_put_file htmp (header ++ body)).2 l) h.noDirectory
  exact ⟨_, writeFile_eq_ok.2 ⟨dir, here, hparent, hplace, hsteps,
    takePlace_eq_ok.2 ⟨l, hlocated, h.noFiller, hnode, h.renamed, rfl⟩⟩⟩

theorem Admits.of_writeFile {target : Path} {l : Location} {header body : String}
    (h : fs.writeFile target header body = (fs', .ok ()))
    (hwritten : Written fs target l (header ++ body) fs') : fs.Admits target l := by
  obtain ⟨dir, here, hparent, hplace, hsteps, hplaced⟩ := writeFile_eq_ok.1 h
  obtain ⟨k, hk, -, -, hrename, -⟩ := takePlace_eq_ok.1 hplaced
  have htmp : here ++ [fs.freshName] ≠ [] :=
    List.append_ne_nil_of_right_ne_nil _ (List.cons_ne_nil _ _)
  have hlocated := (fs.keeps_of_put_file htmp _).locate hk
  cases hlocated.symm.trans hwritten.located
  exact ⟨⟨dir, here, hparent, hplace, hsteps⟩, hwritten.located, hwritten.noFiller,
    hwritten.noDirectory, hrename⟩

/-- Writing a file either fails and leaves everything as it was, so that nothing is stored that was
not there before, or it succeeds, and then the path leads to the header and the body and nothing else
has changed. It fails exactly if something prevents it, whichever step that is. -/
theorem writeFile_all_or_nothing (fs : FileSystem) (target : Path) (header body : String) :
    match fs.writeFile target header body with
    | (fs', .error _) => Same fs fs' ∧ ∀ l, ¬ fs.Admits target l
    | (fs', .ok ()) => ∃ l, fs.Admits target l ∧ fs'.home = fs.home ∧
      fs'.node? l = some (.file (header ++ body)) ∧ (∀ k, k ≠ l → fs'.node? k = fs.node? k) ∧
      fs'.read target = .ok (header ++ body) := by
  split
  · rename_i fault h
    refine ⟨same_of_writeFile_error h, fun l hadmits => ?_⟩
    obtain ⟨fs₁, hok⟩ := hadmits.exists_eq_ok header body
    rw [hok] at h
    cases h
  · rename_i h
    obtain ⟨l, hwritten⟩ := written_of_writeFile h
    exact ⟨l, .of_writeFile h hwritten, hwritten.home, hwritten.written, hwritten.elsewhere,
      hwritten.read⟩

/-- A complete file that cannot be renamed. -/
example : let fs : FileSystem := ⟨[], [], fun step _ => step == .rename⟩
    (fs.writeFile ⟨"a"⟩ "header" "body").1.nodes = [] ∧
      (fs.writeFile ⟨"a"⟩ "header" "body").2 = .error (.io "a" "operation not permitted") := by
  decide +kernel

end StubForge.FileSystem
