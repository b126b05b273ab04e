import StubForge.Proofs.Generation.Contents
import StubForge.Proofs.Generation.DryRun

/-! What a run touches: files below its root, as long as no name is an absolute path. -/
namespace StubForge
open FileSystem

/-- A document in which no segment of the package and no name of a construct starts with a slash. -/
structure Document.Relative (doc : Document) (d : Dialect) : Prop where
  package : ∀ s ∈ (doc.packageFor d).segments, s.toList.head? ≠ some '/'
  stems : ∀ k ∈ doc.definitions.constructs, k.stem.toList.head? ≠ some '/'

/-! ## Names -/

theorem Document.Loadable.dot_notMem_stem {doc : Document} (h : doc.Loadable) :
    ∀ k ∈ doc.definitions.constructs, '.' ∉ k.stem.toList := by
  have hname {id : Identifier} (hid : ∃ text, id = .parse text) : '.' ∉ id.name.toList := by
    obtain ⟨text, rfl⟩ := hid
    exact Identifier.dot_notMem_name_parse text
  obtain ⟨limit, hread⟩ := h.readFrom
  intro k hk
  simp only [Definitions.constructs, List.mem_append, List.mem_map] at hk
  rcases hk with ((hk | ⟨e, he, rfl⟩) | ⟨r, hr, rfl⟩) | ⟨s, hs, rfl⟩
  · split at hk
    · cases hk
    · rw [List.mem_singleton.1 hk, Construct.stem]
      decide
  · obtain ⟨depth, j, hj⟩ := hread.enumerations e he
    exact hname (Reading.readEnumeration_parse hj)
  · obtain ⟨depth, j, hj⟩ := hread.records r hr
    exact hname (Reading.readRecord_parse hj)
  · obtain ⟨depth, j, hj⟩ := hread.services s hs
    exact hname (Reading.readService_parse hj)

theorem Document.downward_segments {doc : Document} {d : Dialect} (hl : doc.Loadable)
    (hr : doc.Relative d) : ∀ s ∈ (doc.packageFor d).segments, Path.Downward s := by
  intro s hs
  obtain ⟨text, htext⟩ := hl.packageFor d
  exact .of_dot_notMem (hr.package s hs) (Identifier.dot_notMem_of_mem_parse (htext ▸ hs))

/-- The extension makes the last piece of a file name a name. -/
theorem Dialect.downward_fileName (d : Dialect) {stem : String}
    (hhead : stem.toList.head? ≠ some '/') (hdot : '.' ∉ stem.toList) :
    Path.Downward (stem ++ d.fileExtension) ∧ Path.names (stem ++ d.fileExtension) ≠ [] := by
  have hlength : 4 < d.fileExtension.toList.length := by cases d <;> decide
  have hslash : '/' ∉ d.fileExtension.toList := by cases d <;> decide
  have hpiece : ∀ c ∈ d.fileExtension.toList, (c == '/') = false := fun c hc =>
    beq_eq_false_iff_ne.2 fun heq => hslash (heq ▸ hc)
  have hstart : d.fileExtension.toList.head? = some '.' := by cases d <;> decide
  obtain ⟨front, last, hstem, hfile⟩ := Text.split_append_of_forall_not stem.toList hpiece
  have hlast {w : List Char} (hw : w.length ≤ 4) : last ++ d.fileExtension.toList ≠ w := by
    intro heq
    rw [← heq, List.length_append] at hw
    omega
  refine ⟨⟨?_, fun piece hmem => ?_⟩, ?_⟩
  · rw [String.toList_append, List.head?_append, hstart]
    cases hs : stem.toList.head? with
    | none => decide
    | some c => rwa [hs] at hhead
  · rw [String.toList_append, hfile, List.mem_append, List.mem_singleton] at hmem
    rcases hmem with hmem | rfl
    · have hnone : '.' ∉ piece := fun hc =>
        hdot (Text.mem_of_mem_split (hstem ▸ List.mem_append_left _ hmem) hc).1
      exact ⟨fun h => hnone (by simp [h]), fun h => hnone (by simp [h])⟩
    · exact ⟨hlast (by decide), hlast (by decide)⟩
  · have hne : last ++ d.fileExtension.toList ≠ [] := hlast (by decide)
    simp [Path.names, Text.fields, hfile, List.filter_append, hne]

/-! ## Files -/

section
variable {d : Dialect} {root : Path} {options : ServiceOptions} {doc : Document}

theorem Plan.directory_ofDocument : (ofDocument d root options doc).directory =
    packageDirectory root (doc.packageFor d) := by
  obtain ⟨header, hheader⟩ := exists_header d
  rw [← doc.packageFor_recase d]
  simp only [ofDocument, hheader]
  rfl

/-- The directory of a plan is the root with names after it. -/
theorem Plan.components_directory (root : Path) (options : ServiceOptions) (hl : doc.Loadable)
    (hr : doc.Relative d) : ∃ names : List String,
      (ofDocument d root options doc).directory.components =
        root.components ++ names.map .name := by
  rw [directory_ofDocument]
  exact ⟨_, root.components_foldl_join_of_downward (Document.downward_segments hl hr)⟩

/-- All files of a plan are below the root, also if a construct has no text. -/
theorem Plan.below_of_mem_files (hl : doc.Loadable) (hr : doc.Relative d) :
    ∀ file ∈ (ofDocument d root options doc).files, root.Below file.1 := by
  intro file hfile
  obtain ⟨i, hi⟩ := List.mem_iff_getElem?.1 hfile
  obtain ⟨k, hk, -, hpath⟩ := getElem?_files_ofDocument hi
  have hmem := List.mem_of_getElem? hk
  have hhead : (k.recase d).stem.toList.head? ≠ some '/' := fun hslash =>
    hr.stems k hmem ((k.head?_stem_recase d).1 hslash)
  have hdot : '.' ∉ (k.recase d).stem.toList := fun hdot =>
    hl.dot_notMem_stem k hmem (Construct.sign_mem_stem (by decide) hdot)
  obtain ⟨hdown, hne⟩ := d.downward_fileName hhead hdot
  obtain ⟨names, hnames⟩ := components_directory root options hl hr
  refine ⟨names ++ Path.names ((k.recase d).stem ++ d.fileExtension), ?_, ?_⟩
  · exact List.append_ne_nil_of_right_ne_nil _ hne
  · rw [hpath, Path.components_join_of_downward _ hdown, hnames, List.map_append, List.append_assoc]

/-- A plan is carried out below the root, also if the storage gets in its way. -/
theorem Plan.carryOut_confined (fs : FileSystem) (hl : doc.Loadable) (hr : doc.Relative d) :
    Confined root fs ((ofDocument d root options doc).carryOut fs).1 := by
  obtain ⟨names, hnames⟩ := components_directory root options hl hr
  refine carryOut_invariant (fs.ensureDirectory_confined hnames) fun fs' h file hfile => ?_
  exact h.writeFile (below_of_mem_files hl hr file hfile) _ _

end

/-- An absolute name puts the files elsewhere than below a relative root. -/
theorem Config.relative_of_below {c : Config} {doc : Document} {o : Outcome}
    (hroot : c.root.isAbsolute = false) (ho : (c.plan doc).outcome = .ok o) (hne : o.files ≠ [])
    (hbelow : ∀ p ∈ o.files, c.root.Below p) : doc.Relative c.dialect := by
  have hrelative (p : Path) (hp : p ∈ o.files) : p.isAbsolute = false :=
    (hbelow p hp).isAbsolute hroot
  have hfiles : o.files = c.files doc := by rw [Config.eq_of_outcome ho]
  rw [hfiles, files] at hne hrelative
  constructor
  · intro s hs hslash
    obtain ⟨p, hp⟩ := List.exists_mem_of_ne_nil _ hne
    have hdirectory : (packageDirectory c.root (doc.packageFor c.dialect)).isAbsolute = true :=
      c.root.isAbsolute_foldl_join_of_mem hs hslash
    have hpath := hrelative p hp
    obtain ⟨stem, -, rfl⟩ := List.mem_map.1 hp
    rw [Path.isAbsolute_join hdirectory] at hpath
    cases hpath
  · intro k hk hslash
    have hstem : (k.recase c.dialect).stem ∈ doc.definitions.stems c.dialect := by
      rw [← Definitions.stems_recase, Definitions.constructs_recase, List.map_map]
      exact List.mem_map_of_mem hk
    have hp := hrelative _ (List.mem_map_of_mem hstem)
    rw [Path.isAbsolute_join_of_head] at hp
    · cases hp
    · rw [String.toList_append, List.head?_append, (k.head?_stem_recase c.dialect).2 hslash]
      rfl

/-- Every run of a loaded document without absolute names stays below its root: all files that it
reports are there, and nothing outside changes but for the directories that lead to a root which is
missing, also if the run ends in a fault. For a root that is a relative path the condition is exact:
an absolute name in the package or among the constructs puts files elsewhere. -/
theorem generate_confined_iff (c : Config) (fs : FileSystem) {doc : Document} (hl : doc.Loadable) :
    (doc.Relative c.dialect →
      (∀ o, (generate c fs doc).2 = .ok o → ∀ p ∈ o.files, c.root.Below p) ∧
      Confined c.root fs (generate c fs doc).1) ∧
    (c.root.isAbsolute = false → ∀ o, (generate c fs doc).2 = .ok o → o.files ≠ [] →
      (∀ p ∈ o.files, c.root.Below p) → doc.Relative c.dialect) := by
  refine ⟨fun hr => ⟨fun o ho p hp => ?_, ?_⟩, fun hroot o ho hne hbelow => ?_⟩
  · obtain ⟨-, rfl⟩ := Plan.outcome_eq_ok.1 (Config.outcome_of_generate ho)
    obtain ⟨file, hfile, rfl⟩ := List.mem_map.1 hp
    exact Plan.below_of_mem_files hl hr file hfile
  · unfold generate
    split
    · exact .refl c.root fs
    · exact Plan.carryOut_confined fs hl hr
  · exact Config.relative_of_below hroot (Config.outcome_of_generate ho) hne hbelow

/-- A run into a directory beside which there is a file. -/
theorem generate_confined_hosts :
    let start : FileSystem := ⟨[(["srv"], .directory), (["srv", "out"], .directory),
      (["etc"], .directory), (["etc", "hosts"], .file "localhost")], ["srv"], fun _ _ => false⟩
    let doc : Document := .mk [.package "*" (.parse "com.example")]
      ⟨[], [], [⟨.simple "point", .struct, []⟩], []⟩
    let c : Config := ⟨.java, ⟨"out"⟩, .none, false⟩
    doc.Loadable ∧ doc.Relative .java ∧
      (∃ o, (generate c start doc).2 = .ok o ∧ o.files = [⟨"out/com/example/Point.java"⟩] ∧
        ∀ p ∈ o.files, c.root.Below p) ∧
      (generate c start doc).1.node? ["etc", "hosts"] = some (.file "localhost") := by
  intro start doc c
  have hl : doc.Loadable := by
    refine Document.loadable_of_read? ("[[\x7b\"namespace\": [\"*\", \"com.example\"]\x7d]," ++
      "[], [], [[\"point\", \"struct\", []]]]") ?_
    decide +kernel
  have hr : doc.Relative .java := ⟨by decide +kernel, by decide +kernel⟩
  obtain ⟨hbelow, hconfined⟩ := (generate_confined_iff c start hl).1 hr
  have hok : (generate c start doc).2 =
      .ok ⟨.parse "com.example", [⟨"out/com/example/Point.java"⟩]⟩ := by decide +kernel
  refine ⟨hl, hr, ⟨_, hok, rfl, hbelow _ hok⟩, ?_⟩
  have hout : Outside (follow start.home c.root.components) ["etc", "hosts"] := by
    have hbase : follow start.home c.root.components = ["srv", "out"] := by decide +kernel
    intro place _ heq
    simp [hbase] at heq
  rcases hconfined.outside _ hout with h | h
  · rw [h]
    decide
  · rw [h]
    decide +kernel

/-- A package that starts with a slash: its files are not below the root, and a real run makes
directories and a file elsewhere. -/
theorem generate_not_confined_slash :
    let start : FileSystem := ⟨[(["out"], .directory)], [], fun _ _ => false⟩
    let doc : Document := .mk [.package "*" (.parse "/com/example")]
      ⟨[], [], [⟨.simple "Point", .struct, []⟩], []⟩
    let c (dryRun : Bool) : Config := ⟨.scala, ⟨"out"⟩, .none, dryRun⟩
    doc.Loadable ∧
      (∃ o, (generate (c true) start doc).2 = .ok o ∧
        ∃ p ∈ o.files, ¬ (c true).root.components <+: p.components) ∧
      (generate (c false) start doc).1.node? ["com", "example", "Point.scala"] ≠ none := by
  intro start doc c
  refine ⟨?_, ⟨⟨.parse "/com/example", [⟨"/com/example/Point.scala"⟩]⟩, ?_, ?_⟩, ?_⟩
  · refine Document.loadable_of_read? ("[[\x7b\"namespace\": [\"*\", \"/com/example\"]\x7d]," ++
      "[], [], [[\"Point\", \"struct\", []]]]") ?_
    decide +kernel
  · decide +kernel
  · exact ⟨_, List.mem_cons_self, by decide +kernel⟩
  · decide +kernel

end StubForge
