import StubForge.Proofs.Generation.Recasing
import StubForge.Proofs.Generation.Tree
import StubForge.Proofs.Schema.Reading

/-! Sequences of runs into one directory that is empty at first: what is in it afterwards depends
on nothing but what was emitted last to each place. -/
namespace StubForge
open FileSystem

/-- An outcome that is a success, or the fault of a type without a mapping. -/
def isSettled : Except Fault Outcome → Bool
  | .ok _ | .error (.unmapped ..) => true
  | .error _ => false

/-- A document whose package and whose definitions have names that can be names of files. -/
structure Document.Storable (doc : Document) (d : Dialect) : Prop where
  package : ∀ s ∈ (doc.packageFor d).segments, s ≠ "" ∧ '/' ∉ s.toList
  stems : ∀ k ∈ doc.definitions.constructs, '/' ∉ k.stem.toList

/-! ## Names -/

theorem Document.plain_segments {doc : Document} {d : Dialect} (hs : doc.Storable d)
    (hl : doc.Loadable) : ∀ s ∈ (doc.packageFor d).segments, Path.Plain s := by
  intro s hmem
  obtain ⟨hne, hslash⟩ := hs.package s hmem
  obtain ⟨text, htext⟩ := hl.packageFor d
  rw [htext] at hmem
  have hdot := Identifier.dot_notMem_of_mem_parse hmem
  refine ⟨hne, hslash, ?_, ?_⟩
  · rintro rfl
    exact hdot (by decide)
  · rintro rfl
    exact hdot (by decide)

theorem Dialect.plain_fileName (d : Dialect) {stem : String} (h : '/' ∉ stem.toList) :
    Path.Plain (stem ++ d.fileExtension) := by
  have hextension : 4 < d.fileExtension.length := by cases d <;> decide
  have hslash : '/' ∉ d.fileExtension.toList := by cases d <;> decide
  have hne {s : String} (hs : s.length ≤ 4) : stem ++ d.fileExtension ≠ s := by
    intro heq
    rw [← heq, String.length_append] at hs
    omega
  refine ⟨hne (by decide), ?_, hne (by decide), hne (by decide)⟩
  rw [String.toList_append, List.mem_append, not_or]
  exact ⟨h, hslash⟩

/-! ## Runs -/

theorem Plan.outcome_eq_ok {p : Plan} {o : Outcome} :
    p.outcome = .ok o ↔ p.fault = none ∧ o = ⟨p.package, p.files.map (·.1)⟩ := by
  cases h : p.fault <;> simp [outcome, h, eq_comm]

theorem Plan.writeAll_error {header : String} {fs : FileSystem} {files : List (Path × String)}
    {fault : Fault} (h : (writeAll header fs files).2 = .error fault) :
    ∃ path detail, fault = .io path detail := by
  induction files generalizing fs with
  | nil => cases h
  | cons file files ih =>
    obtain ⟨path, body⟩ := file
    cases hw : fs.writeFile path header body with
    | mk fs₁ outcome =>
      cases outcome with
      | error fault' =>
        simp only [writeAll, hw] at h
        cases h
        exact writeFile_error (congrArg (·.2) hw)
      | ok u =>
        simp only [writeAll, hw] at h
        exact ih h

/-- The storage gets in the way of a plan, or the directory is made, all files are written and the
plan ends as it should. -/
theorem Plan.carryOut_cases (p : Plan) (fs : FileSystem) :
    (∃ path detail, (p.carryOut fs).2 = .error (.io path detail)) ∨
      ∃ fs₁ fs₂, fs.ensureDirectory p.directory = (fs₁, .ok ()) ∧
        writeAll p.header fs₁ p.files = (fs₂, .ok ()) ∧ p.carryOut fs = (fs₂, p.outcome) := by
  rw [carryOut]
  cases hd : fs.ensureDirectory p.directory with
  | mk fs₁ made =>
    cases made with
    | error fault =>
      obtain ⟨path, detail, rfl⟩ := ensureDirectory_error (congrArg (·.2) hd)
      exact .inl ⟨path, detail, rfl⟩
    | ok u =>
      cases hw : writeAll p.header fs₁ p.files with
      | mk fs₂ written =>
        simp only [hw]
        cases written with
        | error fault =>
          obtain ⟨path, detail, rfl⟩ := writeAll_error (congrArg (·.2) hw)
          exact .inl ⟨path, detail, rfl⟩
        | ok u => exact .inr ⟨fs₁, fs₂, rfl, hw, rfl⟩

theorem Plan.carryOut_of_settled {p : Plan} {fs : FileSystem}
    (h : isSettled (p.carryOut fs).2 = true) :
    ∃ fs₁ fs₂, fs.ensureDirectory p.directory = (fs₁, .ok ()) ∧
      writeAll p.header fs₁ p.files = (fs₂, .ok ()) ∧ p.carryOut fs = (fs₂, p.outcome) := by
  rcases p.carryOut_cases fs with ⟨path, detail, hio⟩ | hdone
  · rw [hio] at h
    cases h
  · exact hdone

namespace Tree

variable {start fs fs' : FileSystem} {root : Path} {base : Location}
  {log : List (Location × String)} {made : List Location}

/-- One file, written into a directory below the root. -/
theorem writeFile (h : Tree start root base log made fs) {segments : List String} {name : String}
    {header body : String} (hname : Path.Plain name)
    (hdirectory : fs.walk fs.home (segments.foldl Path.join root).components =
      .ok (base ++ segments))
    (hw : fs.writeFile ((segments.foldl Path.join root).join name) header body = (fs', .ok ())) :
    Tree start root base (log ++ [(segments ++ [name], header ++ body)]) made fs' ∧
      fs'.walk fs'.home (segments.foldl Path.join root).components = .ok (base ++ segments) := by
  obtain ⟨l, hwritten⟩ := written_of_writeFile hw
  have hl : l = base ++ (segments ++ [name]) := by
    rw [eq_of_locate_join hdirectory hname hwritten.located, List.append_assoc]
  have hpath : (segments.foldl Path.join root).join name =
      (segments ++ [name]).foldl Path.join root := by
    rw [List.foldl_append]
    rfl
  have hne : segments ++ [name] ≠ [] :=
    List.append_ne_nil_of_right_ne_nil _ (List.cons_ne_nil _ _)
  rw [hl, hpath] at hwritten
  refine ⟨h.write hne hwritten, ?_⟩
  rw [hwritten.home]
  exact hwritten.keeps.walk hdirectory

/-- The files of a run, written one after another into their directory. -/
theorem writeAll (h : Tree start root base log made fs) {s : Setting} {header : String}
    (hheader : s.naming.dialect.templates.header = .ok header) {ks : List Construct}
    (hdirectory : fs.walk fs.home (packageDirectory root s.package).components =
      .ok (base ++ s.package.segments))
    (hstems : ∀ k ∈ ks, '/' ∉ k.stem.toList)
    (hw : Plan.writeAll header fs (Plan.renderAll s (packageDirectory root s.package) ks).1 =
      (fs', .ok ())) : Tree start root base (log ++ s.emissions ks) made fs' := by
  induction ks generalizing fs log with
  | nil =>
    cases hw
    rwa [Setting.emissions, List.takeWhile_nil, List.filterMap_nil, List.append_nil]
  | cons k ks ih =>
    rw [List.forall_mem_cons] at hstems
    cases hk : k.render s with
    | error fault =>
      simp only [Plan.renderAll, hk] at hw
      cases hw
      rwa [Setting.emissions_cons_error hk, List.append_nil]
    | ok body =>
      simp only [Plan.renderAll, hk, Plan.writeAll] at hw
      cases hfile : fs.writeFile ((packageDirectory root s.package).join
          (k.stem ++ s.naming.dialect.fileExtension)) header body with
      | mk fs₁ outcome =>
        rw [hfile] at hw
        cases outcome with
        | error fault => cases hw
        | ok u =>
          have hname := s.naming.dialect.plain_fileName hstems.1
          obtain ⟨htree, hdirectory₁⟩ := h.writeFile hname hdirectory hfile
          rw [Setting.emissions_cons_ok hheader hk, List.append_cons]
          exact ih htree hdirectory₁ hstems.2 hw

/-- A run of its own, unless the storage gets in its way. -/
theorem run (h : Tree start root base log made fs) {c : Config} {doc : Document}
    (hroot : c.root = root) (hl : doc.Loadable) (hs : doc.Storable c.dialect)
    (hsettled : isSettled (generate c fs doc).2 = true) :
    Tree start root base (log ++ c.emissions doc) (made ++ c.directories doc)
      (generate c fs doc).1 := by
  by_cases hdry : c.dryRun = true
  · rw [generate_dryRun hdry, Config.emissions, if_pos hdry, Config.directories, if_pos hdry,
      List.append_nil, List.append_nil]
    exact h
  · obtain ⟨header, hheader⟩ := exists_header c.dialect
    have hplan : generate c fs doc = (c.plan doc).carryOut fs := by rw [generate, if_neg hdry]
    rw [hplan] at hsettled ⊢
    obtain ⟨fs₁, fs₂, hd, hw, hfinal⟩ := Plan.carryOut_of_settled hsettled
    rw [Config.emissions, if_neg hdry, Config.directories, if_neg hdry, hfinal]
    subst hroot
    simp only [Config.plan, Plan.ofDocument, hheader] at hd hw
    have hplain := Document.plain_segments hs hl
    have hne : (doc.packageFor c.dialect).segments ≠ [] := by
      obtain ⟨text, htext⟩ := hl.packageFor c.dialect
      rw [htext]
      exact Identifier.segments_parse_ne_nil text
    rw [← doc.packageFor_recase] at hplain hne
    have hmade := madeAlong_of_ensureDirectory h.reached hplain hne hd
    have htree := h.makeDirectories hmade
    refine htree.writeAll hheader ?_ ?_ hw
    · have hcomponents := c.root.components_foldl_join hplain
      exact (congrArg _ hcomponents).trans (by
        rw [walk_append, htree.reached]
        exact hmade.way)
    · intro k hk
      rw [Document.constructs_recase] at hk
      obtain ⟨k', hk', rfl⟩ := List.mem_map.1 hk
      exact fun hslash => hs.stems k' hk' (Construct.sign_mem_stem (by decide) hslash)

/-- Runs one after another, each described by what it emits. -/
theorem runs (h : Tree start root base log made fs) {rs : List (Config × Document)}
    (hroot : ∀ r ∈ rs, r.1.root = root) (hl : ∀ r ∈ rs, r.2.Loadable)
    (hs : ∀ r ∈ rs, r.2.Storable r.1.dialect)
    (hsettled : ∀ o ∈ (generateAll fs rs).2, isSettled o = true) :
    Tree start root base (log ++ rs.flatMap fun r => r.1.emissions r.2)
      (made ++ rs.flatMap fun r => r.1.directories r.2) (generateAll fs rs).1 := by
  induction rs generalizing fs log made with
  | nil => simpa [generateAll] using h
  | cons r rs ih =>
    obtain ⟨c, doc⟩ := r
    rw [List.forall_mem_cons] at hroot hl hs
    simp only [generateAll, List.forall_mem_cons] at hsettled
    have hrun := h.run hroot.1 hl.1 hs.1 hsettled.1
    have hrest := ih hrun hroot.2 hl.2 hs.2 hsettled.2
    rwa [List.append_assoc, List.append_assoc] at hrest

end Tree

/-! ## Sequences of runs -/

theorem generateAll_append (fs : FileSystem) (rs rs' : List (Config × Document)) :
    generateAll fs (rs ++ rs') =
      ((generateAll (generateAll fs rs).1 rs').1,
        (generateAll fs rs).2 ++ (generateAll (generateAll fs rs).1 rs').2) := by
  induction rs generalizing fs with
  | nil => rfl
  | cons r rs ih =>
    obtain ⟨c, doc⟩ := r
    simp only [List.cons_append, generateAll, ih]

/-- Runs into one directory `base`, to which `root` leads and in which there is nothing at first.
The storage never gets in the way. -/
structure Session (fs : FileSystem) (root : Path) (base : Location)
    (runs : List (Config × Document)) : Prop where
  reached : fs.walk fs.home root.components = .ok base
  empty : ∀ place ≠ [], fs.node? (base ++ place) = none
  rooted : ∀ r ∈ runs, r.1.root = root
  loadable : ∀ r ∈ runs, r.2.Loadable
  storable : ∀ r ∈ runs, r.2.Storable r.1.dialect
  settled : ∀ o ∈ (generateAll fs runs).2, isSettled o = true

/-- Everything that a sequence of runs emits, in its order. -/
def emissionsOf (runs : List (Config × Document)) : List (Location × String) :=
  runs.flatMap fun r => r.1.emissions r.2

namespace Session

variable {fs : FileSystem} {root : Path} {base : Location} {runs : List (Config × Document)}

theorem tree (h : Session fs root base runs) :
    Tree fs root base (emissionsOf runs) (runs.flatMap fun r => r.1.directories r.2)
      (generateAll fs runs).1 := by
  have hempty : Tree fs root base [] [] fs := .empty h.reached h.empty
  exact hempty.runs h.rooted h.loadable h.storable h.settled

theorem of_append {rs : List (Config × Document)} (h : Session fs root base (runs ++ rs)) :
    Session fs root base runs := by
  have hmem (r) (hr : r ∈ runs) : r ∈ runs ++ rs := List.mem_append_left rs hr
  constructor
  · exact h.reached
  · exact h.empty
  · exact fun r hr => h.rooted r (hmem r hr)
  · exact fun r hr => h.loadable r (hmem r hr)
  · exact fun r hr => h.storable r (hmem r hr)
  · intro o ho
    refine h.settled o ?_
    rw [generateAll_append]
    exact List.mem_append_left _ ho

/-- After any sequence of runs the files below the root are what was emitted last to each place,
with its content, and are read under their paths. So the same run once more changes nothing, and
two runs that emit to different places can change theirs. -/
theorem final_tree (h : Session fs root base runs) :
    (∀ place ≠ [], ∀ content,
      ((generateAll fs runs).1.node? (base ++ place) = some (.file content) ↔
        lastEmitted (emissionsOf runs) place = some content) ∧
      (lastEmitted (emissionsOf runs) place = some content →
        (generateAll fs runs).1.read (place.foldl Path.join root) = .ok content)) ∧
    (∀ before r, runs = before ++ [r, r] → ∀ l,
      (generateAll fs runs).1.node? l = (generateAll fs (before ++ [r])).1.node? l) ∧
    ∀ before r r' after, runs = before ++ r :: r' :: after →
      Session fs root base (before ++ r' :: r :: after) →
      (∀ place ∈ (r.1.emissions r.2).map (·.1), place ∉ (r'.1.emissions r'.2).map (·.1)) → ∀ l,
        (generateAll fs runs).1.node? l =
          (generateAll fs (before ++ r' :: r :: after)).1.node? l := by
  refine ⟨?_, ?_, ?_⟩
  · exact fun place hne content => ⟨h.tree.file place hne content, h.tree.read hne⟩
  · rintro before r rfl l
    have honce : Session fs root base (before ++ [r]) := by
      rw [List.append_cons] at h
      exact h.of_append
    refine h.tree.node?_eq honce.tree (fun place => ?_) (fun names => ?_) l
    · simp only [emissionsOf, List.flatMap_append, List.flatMap_cons, List.flatMap_nil,
        List.append_nil, lastEmitted_append, Option.or_self]
    · simp
  · rintro before r r' after rfl h' hdisjoint l
    refine h.tree.node?_eq h'.tree (fun place => ?_) (fun names => ?_) l
    · simp only [emissionsOf, List.flatMap_append, List.flatMap_cons, lastEmitted_append]
      by_cases hr : place ∈ (r.1.emissions r.2).map (·.1)
      · rw [lastEmitted_eq_none (hdisjoint place hr), Option.or_none, Option.or_none]
      · rw [lastEmitted_eq_none hr, Option.or_none, Option.or_none]
    · simp [or_left_comm]

/-- The first run stops at a struct after the file of an enum, and the third repeats the second. -/
theorem final_tree_shades :
    let start : FileSystem := ⟨[(["out"], .directory)], [], fun _ _ => false⟩
    let stopped : Document := .mk [] ⟨[], [⟨.simple "shade", []⟩],
      [⟨.simple "Box", .struct, [⟨1, .simple "lid", "", .reference (.simple "Lid"), .unmarked,
        none⟩]⟩], []⟩
    let color : Document := .mk [] ⟨[], [⟨.simple "color", [⟨.simple "RED", "", 1⟩]⟩], [], []⟩
    let c : Config := ⟨.java, ⟨"out"⟩, .none, false⟩
    let runs := [(c, stopped), (c, color), (c, color)]
    (∃ content, (generateAll start runs).1.read ⟨"out/thrift/Shade.java"⟩ = .ok content) ∧
      ∀ l, (generateAll start runs).1.node? l =
        (generateAll start [(c, stopped), (c, color)]).1.node? l := by
  intro start stopped color c runs
  have hstopped : stopped.Loadable := by
    refine Document.loadable_of_read? ("[[], [], [[\"shade\", []]], [[\"Box\", \"struct\"," ++
      "[[1, \"lid\", \"\", \x7b\"reference\": \"Lid\"\x7d]]]]]") ?_
    decide +kernel
  have hcolor : color.Loadable := by
    refine Document.loadable_of_read? "[[], [], [[\"color\", [[\"RED\", \"\", 1]]]]]" ?_
    decide +kernel
  have hsession : Session start ⟨"out"⟩ ["out"] runs := by
    constructor
    · decide +kernel
    · intro place hne
      cases place with
      | nil => exact absurd rfl hne
      | cons name place => simp [start, node?, List.lookup_cons]
    · simp [runs, c]
    · simp [runs, hstopped, hcolor]
    · simp only [runs, List.forall_mem_cons]
      exact ⟨⟨by decide +kernel, by decide +kernel⟩, ⟨by decide +kernel, by decide +kernel⟩,
        ⟨by decide +kernel, by decide +kernel⟩, List.forall_mem_nil _⟩
    · decide +kernel
  obtain ⟨hfiles, hrepeat, -⟩ := hsession.final_tree
  have hshade : (lastEmitted (emissionsOf runs) ["thrift", "Shade.java"]).isSome = true := by
    decide +kernel
  obtain ⟨content, hcontent⟩ := Option.isSome_iff_exists.1 hshade
  have hread := (hfiles ["thrift", "Shade.java"] (List.cons_ne_nil _ _) content).2 hcontent
  have hpath : ["thrift", "Shade.java"].foldl Path.join ⟨"out"⟩ = ⟨"out/thrift/Shade.java"⟩ := by
    decide +kernel
  rw [hpath] at hread
  exact ⟨⟨content, hread⟩, hrepeat [(c, stopped)] (c, color) rfl⟩

end Session
end StubForge
