import StubForge.Proofs.Generation.Session

/-! What a dry run tells about the run itself: which files there will be, in which order, and the
fault if it is not one of the storage. -/
namespace StubForge
open FileSystem

/-! ## Files of a document -/

/-- The names of the files of a document, without the extension, in the order in which they are
generated. -/
def Definitions.stems (d : Dialect) (ds : Definitions) : List String :=
  (if ds.constants.isEmpty then [] else ["Constants"]) ++
    ds.enumerations.map (fun e => (d.typeCase e.name).name) ++
    ds.records.map (fun r => (d.typeCase r.name).name) ++
    ds.services.map (fun s => (d.typeCase s.name).name)

/-- The files of a document, all in the directory of its package. -/
def Config.files (c : Config) (doc : Document) : List Path :=
  (doc.definitions.stems c.dialect).map fun stem =>
    (packageDirectory c.root (doc.packageFor c.dialect)).join (stem ++ c.dialect.fileExtension)

theorem Definitions.stems_recase (d : Dialect) (ds : Definitions) :
    (ds.recase d).constructs.map Construct.stem = ds.stems d := by
  cases h : ds.constants <;>
    simp [constructs, recase, stems, Construct.stem, h, Enumeration.recase, Record.recase,
      Service.recase, Function.comp_def]

theorem Plan.paths_renderAll {s : Setting} {directory : Path} {ks : List Construct}
    (h : (renderAll s directory ks).2 = none) :
    (renderAll s directory ks).1.map (·.1) =
      ks.map fun k => directory.join (k.stem ++ s.naming.dialect.fileExtension) := by
  induction ks with
  | nil => rfl
  | cons k ks ih =>
    cases hk : k.render s with
    | error fault => simp [renderAll, hk] at h
    | ok body =>
      simp only [renderAll, hk] at h ⊢
      rw [List.map_cons, List.map_cons, ih h]

/-- A plan without a fault has all files of the document. -/
theorem Config.eq_of_outcome {c : Config} {doc : Document} {o : Outcome}
    (h : (c.plan doc).outcome = .ok o) : o = ⟨doc.packageFor c.dialect, c.files doc⟩ := by
  obtain ⟨header, hheader⟩ := exists_header c.dialect
  obtain ⟨hfault, rfl⟩ := Plan.outcome_eq_ok.1 h
  simp only [plan, Plan.ofDocument, hheader] at hfault ⊢
  rw [Plan.paths_renderAll hfault, Document.definitions_recase, files,
    ← Definitions.stems_recase, List.map_map, Setting.ofDocument, Document.packageFor_recase]
  rfl

/-! ## Prediction -/

/-- A plan that is carried out ends as planned, unless the storage gets in its way. -/
theorem Plan.carryOut_outcome (p : Plan) (fs : FileSystem) :
    (p.carryOut fs).2 = p.outcome ∨
      ∃ path detail, (p.carryOut fs).2 = .error (.io path detail) := by
  rcases p.carryOut_cases fs with hio | ⟨fs₁, fs₂, -, -, hdone⟩
  · exact .inr hio
  · exact .inl (by rw [hdone])

/-- A run that succeeds, dry or not, has the outcome that was planned. -/
theorem Config.outcome_of_generate {c : Config} {fs : FileSystem} {doc : Document} {o : Outcome}
    (h : (generate c fs doc).2 = .ok o) : (c.plan doc).outcome = .ok o := by
  rw [generate] at h
  split at h
  · exact h
  · rcases (c.plan doc).carryOut_outcome fs with heq | ⟨path, detail, hio⟩
    · rw [← heq, h]
    · rw [h] at hio
      cases hio

/-- A dry run touches nothing, and the run itself ends in the same way or in a fault of the storage:
with the same package and the same files in the same order, or with the same fault. The files are
that of the constants, if there are any, and one for each enum, struct and service in the order of
their declarations, all in the directory of the package. -/
theorem generate_dryRun_predicts (c : Config) (fs : FileSystem) (doc : Document) :
    let dry := generate { c with dryRun := true } fs doc
    let real := generate { c with dryRun := false } fs doc
    dry.1 = fs ∧
    (∀ o, real.2 = .ok o → dry.2 = .ok o) ∧
    (∀ fault, dry.2 = .error fault →
      real.2 = .error fault ∨ ∃ path detail, real.2 = .error (.io path detail)) ∧
    (∀ o, dry.2 = .ok o → real.2 = .ok o ∨ ∃ path detail, real.2 = .error (.io path detail)) ∧
    ∀ o, dry.2 = .ok o → o.package = doc.packageFor c.dialect ∧ o.files = c.files doc := by
  intro dry real
  have hdry : dry = (fs, (c.plan doc).outcome) := generate_dryRun rfl fs doc
  have hreal : real.2 = dry.2 ∨ ∃ path detail, real.2 = .error (.io path detail) := by
    rw [hdry]
    exact (c.plan doc).carryOut_outcome fs
  refine ⟨congrArg (·.1) hdry, ?_, ?_, ?_, ?_⟩
  · intro o ho
    rw [hdry]
    exact Config.outcome_of_generate (c := { c with dryRun := false }) ho
  · intro fault hfault
    rwa [hfault] at hreal
  · intro o ho
    rwa [ho] at hreal
  · intro o ho
    rw [hdry] at ho
    rw [Config.eq_of_outcome ho]
    exact ⟨rfl, rfl⟩

end StubForge
