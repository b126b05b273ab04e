import StubForge.Proofs.Generation.Rendering
import StubForge.Proofs.Generation.Session

/-! The files of a plan: which construct each of them is of, and that a run leaves no other contents
behind. -/
namespace StubForge
open FileSystem

namespace Plan

/-- The files of a plan are those of its constructs, one by one. -/
theorem getElem?_files_renderAll {s : Setting} {directory : Path} {ks : List Construct}
    {i : Nat} {file : Path × String} (h : (renderAll s directory ks).1[i]? = some file) :
    ∃ k, ks[i]? = some k ∧ k.render s = .ok file.2 ∧
      file.1 = directory.join (k.stem ++ s.naming.dialect.fileExtension) := by
  induction ks generalizing i with
  | nil => simp [renderAll] at h
  | cons k ks ih =>
    rw [renderAll] at h
    cases hrender : k.render s with
    | error fault => simp [hrender] at h
    | ok text =>
      rw [hrender] at h
      cases i with
      | zero =>
        cases h
        exact ⟨k, rfl, hrender, rfl⟩
      | succ i => exact ih h

/-- A file that is planned for a document is that of the construct in the same place. -/
theorem getElem?_files_ofDocument {d : Dialect} {root : Path} {options : ServiceOptions}
    {doc : Document} {i : Nat} {file : Path × String}
    (h : (ofDocument d root options doc).files[i]? = some file) :
    ∃ k, doc.definitions.constructs[i]? = some k ∧
      (k.recase d).render (.ofDocument d options (doc.recase d)) = .ok file.2 ∧
      file.1 = (ofDocument d root options doc).directory.join
        ((k.recase d).stem ++ d.fileExtension) := by
  obtain ⟨header, hheader⟩ := exists_header d
  simp only [ofDocument, hheader] at h ⊢
  obtain ⟨cased, hcased, hrender, hpath⟩ := getElem?_files_renderAll h
  rw [Document.constructs_recase, List.getElem?_map, Option.map_eq_some_iff] at hcased
  obtain ⟨k, hk, rfl⟩ := hcased
  exact ⟨k, hk, hrender, hpath⟩

/-- The contents of the files of a plan. -/
def contents (p : Plan) : List String := p.files.map fun file => p.header ++ file.2

/-- What every file that is written keeps true, all of them do, also if one cannot be written. -/
theorem writeAll_invariant {I : FileSystem → Prop} {header : String} {files : List (Path × String)}
    (hfile : ∀ fs, I fs → ∀ file ∈ files, I (fs.writeFile file.1 header file.2).1)
    {fs : FileSystem} (h : I fs) : I (writeAll header fs files).1 := by
  induction files generalizing fs with
  | nil => exact h
  | cons file files ih =>
    obtain ⟨path, body⟩ := file
    have hfirst := hfile fs h _ List.mem_cons_self
    rw [writeAll]
    cases hw : fs.writeFile path header body with
    | mk fs₁ outcome =>
      rw [hw] at hfirst
      cases outcome with
      | error fault => exact hfirst
      | ok u =>
        refine ih (fun fs h file hmem => ?_) hfirst
        exact hfile fs h file (List.mem_cons_of_mem _ hmem)

theorem carryOut_invariant {I : FileSystem → Prop} {p : Plan} {fs : FileSystem}
    (hdirectory : I (fs.ensureDirectory p.directory).1)
    (hfile : ∀ fs, I fs → ∀ file ∈ p.files, I (fs.writeFile file.1 p.header file.2).1) :
    I (p.carryOut fs).1 := by
  rw [carryOut]
  cases hd : fs.ensureDirectory p.directory with
  | mk fs₁ outcome =>
    rw [hd] at hdirectory
    cases outcome with
    | error fault => exact hdirectory
    | ok u =>
      have hfiles := writeAll_invariant hfile hdirectory
      cases hw : writeAll p.header fs₁ p.files with
      | mk fs₂ outcome =>
        rw [hw] at hfiles
        simp only [hw]
        cases outcome <;> exact hfiles

theorem carryOut_onlyNew (p : Plan) (fs : FileSystem) :
    OnlyNew p.contents fs (p.carryOut fs).1 := by
  have hdirectory := (fs.ensureDirectory_onlyNew p.directory).mono (List.nil_subset p.contents)
  refine carryOut_invariant hdirectory fun fs' h file hfile => ?_
  refine h.trans ((fs'.writeFile_onlyNew file.1 p.header file.2).mono ?_)
  exact List.cons_subset.2 ⟨List.mem_map_of_mem hfile, List.nil_subset _⟩

/-- One file is written, and the others after it. -/
theorem exists_written_of_writeAll {header : String} {fs fs' : FileSystem} {file : Path × String}
    {files : List (Path × String)} (h : writeAll header fs (file :: files) = (fs', .ok ())) :
    ∃ fs₁ l, FileSystem.Written fs file.1 l (header ++ file.2) fs₁ ∧
      writeAll header fs₁ files = (fs', .ok ()) := by
  obtain ⟨path, body⟩ := file
  rw [writeAll] at h
  cases hw : fs.writeFile path header body with
  | mk fs₁ outcome =>
    rw [hw] at h
    cases outcome with
    | error fault => cases h
    | ok u =>
      obtain ⟨l, hwritten⟩ := written_of_writeFile hw
      exact ⟨fs₁, l, hwritten, h⟩

/-- A file that could be read before still can, though its content may have been replaced. -/
theorem exists_read_of_writeAll {header : String} {fs fs' : FileSystem}
    {files : List (Path × String)} (h : writeAll header fs files = (fs', .ok ())) {p : Path}
    {before : String} (hp : fs.read p = .ok before) :
    ∃ content ∈ before :: files.map fun file => header ++ file.2, fs'.read p = .ok content := by
  induction files generalizing fs before with
  | nil =>
    cases h
    exact ⟨before, List.mem_cons_self, hp⟩
  | cons file files ih =>
    obtain ⟨fs₁, l, hwritten, hrest⟩ := exists_written_of_writeAll h
    rcases hwritten.read_or hp with hp | hp
    · obtain ⟨content, hmem, hread⟩ := ih hrest hp
      rcases List.mem_cons.1 hmem with rfl | hmem
      · exact ⟨_, List.mem_cons_self, hread⟩
      · exact ⟨content, List.mem_cons_of_mem _ (List.mem_cons_of_mem _ hmem), hread⟩
    · obtain ⟨content, hmem, hread⟩ := ih hrest hp
      exact ⟨content, List.mem_cons_of_mem _ hmem, hread⟩

theorem exists_read_of_mem_files {header : String} {fs fs' : FileSystem}
    {files : List (Path × String)} (h : writeAll header fs files = (fs', .ok ())) :
    ∀ file ∈ files, ∃ content ∈ files.map fun file => header ++ file.2,
      fs'.read file.1 = .ok content := by
  induction files generalizing fs with
  | nil => exact List.forall_mem_nil _
  | cons file files ih =>
    obtain ⟨fs₁, l, hwritten, hrest⟩ := exists_written_of_writeAll h
    have hfirst := exists_read_of_writeAll hrest hwritten.read
    refine List.forall_mem_cons.2 ⟨hfirst, fun other hother => ?_⟩
    obtain ⟨content, hmem, hread⟩ := ih hrest other hother
    exact ⟨content, List.mem_cons_of_mem _ hmem, hread⟩

/-- Every file that a successful run reports can be read, and has one of the planned contents. -/
theorem exists_read_of_carryOut {p : Plan} {fs : FileSystem} {o : Outcome}
    (h : (p.carryOut fs).2 = .ok o) :
    ∀ path ∈ o.files, ∃ content ∈ p.contents, (p.carryOut fs).1.read path = .ok content := by
  have hsettled : isSettled (p.carryOut fs).2 = true := by rw [h, isSettled]
  obtain ⟨fs₁, fs₂, hd, hw, hfinal⟩ := carryOut_of_settled hsettled
  rw [hfinal] at h ⊢
  rw [(outcome_eq_ok.1 h).2]
  exact List.forall_mem_map.2 (exists_read_of_mem_files hw)

end Plan

theorem generate_onlyNew (c : Config) (fs : FileSystem) (doc : Document) :
    OnlyNew (c.plan doc).contents fs (generate c fs doc).1 := by
  unfold generate
  split
  · exact .of_node?_eq (fun _ => rfl) _
  · exact (c.plan doc).carryOut_onlyNew fs

end StubForge
