import Mathlib.Data.List.Nodup
import StubForge.Proofs.Generation.Contents
import StubForge.Proofs.Generation.DryRun

/-! When every construct of a document has a file of its own: its name in the casing of the dialect
must not be that of another. -/
namespace StubForge
open FileSystem

/-! ## Names -/

/-- A word of ASCII letters, digits and underscores that starts with a letter. -/
def Text.isWord (t : List Char) : Bool :=
  t.head?.any Char.isAlpha && t.all fun c => c.isAlphanum || c == '_'

def Identifier.isWord : Identifier → Bool
  | simple name => Text.isWord name.toList
  | qualified _ => false

/-- The names of the enums, structs and services of a document. -/
def Definitions.names (ds : Definitions) : List Identifier :=
  ds.enumerations.map (·.name) ++ ds.records.map (·.name) ++ ds.services.map (·.name)

/-- All names are words. -/
def Definitions.HasWords (ds : Definitions) : Prop := ∀ id ∈ ds.names, id.isWord = true

instance (ds : Definitions) : Decidable ds.HasWords :=
  inferInstanceAs (Decidable (∀ id ∈ ds.names, id.isWord = true))

theorem Definitions.stems_eq_names (d : Dialect) (ds : Definitions) :
    ds.stems d = (if ds.constants.isEmpty then [] else ["Constants"]) ++
      (ds.names.map d.typeCase).map Identifier.name := by
  simp [stems, names, Function.comp_def]

theorem Definitions.HasWords.exists_simple {ds : Definitions} (h : ds.HasWords) {d : Dialect}
    {id : Identifier} (hid : id ∈ ds.names.map d.typeCase) :
    ∃ name, id = .simple name ∧ '/' ∉ name.toList := by
  obtain ⟨declared, hdeclared, rfl⟩ := List.mem_map.1 hid
  have hword := h declared hdeclared
  cases declared with
  | qualified segments => cases hword
  | simple word =>
    refine ⟨_, rfl, fun hslash => ?_⟩
    have hmem : '/' ∈ (Identifier.simple word).name.toList :=
      d.sign_mem_typeCase (by decide) hslash
    rw [Identifier.isWord, Text.isWord, Bool.and_eq_true, List.all_eq_true] at hword
    exact absurd (hword.2 _ hmem) (by decide)

theorem Definitions.HasWords.slash_notMem_stems {ds : Definitions} (h : ds.HasWords) (d : Dialect) :
    ∀ stem ∈ ds.stems d, '/' ∉ stem.toList := by
  intro stem hstem
  rw [stems_eq_names, List.mem_append] at hstem
  rcases hstem with hstem | hstem
  · split at hstem
    · cases hstem
    · rw [List.mem_singleton.1 hstem]
      decide
  · obtain ⟨id, hid, rfl⟩ := List.mem_map.1 hstem
    obtain ⟨name, rfl, hslash⟩ := h.exists_simple hid
    exact hslash

/-- The names of the files differ exactly if the names of the constructs differ in the casing of the
dialect, and from that of the constants. -/
theorem Definitions.HasWords.nodup_stems_iff {ds : Definitions} (h : ds.HasWords) (d : Dialect) :
    (ds.stems d).Nodup ↔ (ds.names.map d.typeCase).Nodup ∧
      (ds.constants ≠ [] → .simple "Constants" ∉ ds.names.map d.typeCase) := by
  have hnames : ((ds.names.map d.typeCase).map Identifier.name).Nodup ↔
      (ds.names.map d.typeCase).Nodup := by
    refine ⟨List.Nodup.of_map _, fun hnodup => hnodup.map_on ?_⟩
    intro first hfirst second hsecond heq
    obtain ⟨a, rfl, -⟩ := h.exists_simple hfirst
    obtain ⟨b, rfl, -⟩ := h.exists_simple hsecond
    exact congrArg _ heq
  have hconstants : "Constants" ∈ (ds.names.map d.typeCase).map Identifier.name ↔
      .simple "Constants" ∈ ds.names.map d.typeCase := by
    constructor
    · intro hmem
      obtain ⟨id, hid, hname⟩ := List.mem_map.1 hmem
      obtain ⟨name, rfl, -⟩ := h.exists_simple hid
      rw [← hname]
      exact hid
    · exact fun hmem => List.mem_map.2 ⟨_, hmem, rfl⟩
  rw [stems_eq_names]
  cases hc : ds.constants with
  | nil => simpa using hnames
  | cons item items =>
    rw [List.isEmpty_cons, if_neg Bool.false_ne_true, List.singleton_append, List.nodup_cons,
      hconstants, hnames, and_comm]
    simp

theorem Config.nodup_files_iff {c : Config} {doc : Document} (h : doc.definitions.HasWords) :
    (c.files doc).Nodup ↔ (doc.definitions.stems c.dialect).Nodup := by
  refine ⟨List.Nodup.of_map _, fun hnodup => hnodup.map_on ?_⟩
  intro first hfirst second hsecond heq
  have hslash := h.slash_notMem_stems c.dialect
  have hjoin := Path.join_inj _ (c.dialect.plain_fileName (hslash first hfirst))
    (c.dialect.plain_fileName (hslash second hsecond)) heq
  exact (String.append_left_inj _).1 hjoin

/-! ## Contents -/

namespace Plan

/-- A file keeps its content while others are written into the same directory. -/
theorem read_of_writeAll {header : String} {dir : Path} {fs fs' : FileSystem}
    {files : List (Path × String)}
    (hfiles : ∀ file ∈ files, ∃ name, Path.Plain name ∧ file.1 = dir.join name)
    (h : writeAll header fs files = (fs', .ok ())) {name content : String}
    (hname : Path.Plain name) (hnot : dir.join name ∉ files.map (·.1))
    (hread : fs.read (dir.join name) = .ok content) : fs'.read (dir.join name) = .ok content := by
  induction files generalizing fs with
  | nil =>
    cases h
    exact hread
  | cons file files ih =>
    obtain ⟨path, body⟩ := file
    obtain ⟨fs₁, l, hwritten, hrest⟩ := exists_written_of_writeAll h
    rw [List.map_cons, List.mem_cons, not_or] at hnot
    obtain ⟨⟨other, hother, rfl⟩, hothers⟩ := List.forall_mem_cons.1 hfiles
    refine ih hothers hrest hnot.2 ?_
    obtain ⟨k, hk, hnode, hfiller⟩ := read_eq_ok.1 hread
    obtain ⟨here, hhere, rfl⟩ := exists_of_locate_join hname hk
    have hne : here ++ [name] ≠ l := by
      rw [eq_of_locate_join hhere hother hwritten.located]
      intro heq
      obtain rfl := List.singleton_inj.1 (List.append_cancel_left heq)
      exact hnot.1 rfl
    have hkept := (hwritten.elsewhere _ hne).trans hnode
    exact read_eq_ok.2 ⟨_, hwritten.keeps.locate hk, hkept, hfiller⟩

/-- Files with different paths in one directory all have their own content in the end. -/
theorem read_of_mem_files {header : String} {dir : Path} {fs fs' : FileSystem}
    {files : List (Path × String)}
    (hfiles : ∀ file ∈ files, ∃ name, Path.Plain name ∧ file.1 = dir.join name)
    (hnodup : (files.map (·.1)).Nodup) (h : writeAll header fs files = (fs', .ok ())) :
    ∀ file ∈ files, fs'.read file.1 = .ok (header ++ file.2) := by
  induction files generalizing fs with
  | nil => exact List.forall_mem_nil _
  | cons file files ih =>
    obtain ⟨path, body⟩ := file
    obtain ⟨fs₁, l, hwritten, hrest⟩ := exists_written_of_writeAll h
    rw [List.map_cons, List.nodup_cons] at hnodup
    obtain ⟨⟨name, hname, rfl⟩, hothers⟩ := List.forall_mem_cons.1 hfiles
    refine List.forall_mem_cons.2 ⟨?_, ih hothers hnodup.2 hrest⟩
    exact read_of_writeAll hothers hrest hname hnodup.1 hwritten.read

/-- A construct of a plan without a fault has its file in the plan. -/
theorem exists_mem_renderAll {s : Setting} {directory : Path} {ks : List Construct}
    (h : (renderAll s directory ks).2 = none) :
    ∀ k ∈ ks, ∃ body, k.render s = .ok body ∧
      (directory.join (k.stem ++ s.naming.dialect.fileExtension), body) ∈
        (renderAll s directory ks).1 := by
  induction ks with
  | nil => exact List.forall_mem_nil _
  | cons k ks ih =>
    cases hk : k.render s with
    | error fault => simp [renderAll, hk] at h
    | ok body =>
      simp only [renderAll, hk] at h ⊢
      refine List.forall_mem_cons.2 ⟨⟨body, hk, List.mem_cons_self⟩, fun other hother => ?_⟩
      obtain ⟨text, htext, hmem⟩ := ih h other hother
      exact ⟨text, htext, List.mem_cons_of_mem _ hmem⟩

/-- When the files of constructs have different paths and all are written, each can be read from the
place where it was emitted. -/
theorem read_of_renderAll {s : Setting} {root : Path} {header : String} {fs fs' : FileSystem}
    {ks : List Construct} (hheader : s.naming.dialect.templates.header = .ok header)
    (hslash : ∀ k ∈ ks, '/' ∉ k.stem.toList)
    (hfault : (renderAll s (packageDirectory root s.package) ks).2 = none)
    (hnodup : ((renderAll s (packageDirectory root s.package) ks).1.map (·.1)).Nodup)
    (h : writeAll header fs (renderAll s (packageDirectory root s.package) ks).1 =
      (fs', .ok ())) : ∀ k ∈ ks, ∃ place content, s.emission? k = some (place, content) ∧
        fs'.read (place.foldl Path.join root) = .ok content := by
  intro k hk
  obtain ⟨body, hbody, hmem⟩ := exists_mem_renderAll hfault k hk
  have hplain : ∀ file ∈ (renderAll s (packageDirectory root s.package) ks).1,
      ∃ name, Path.Plain name ∧ file.1 = (packageDirectory root s.package).join name := by
    intro file hfile
    obtain ⟨i, hi⟩ := List.mem_iff_getElem?.1 hfile
    obtain ⟨other, hother, -, hpath⟩ := getElem?_files_renderAll hi
    have hname := s.naming.dialect.plain_fileName (hslash other (List.mem_of_getElem? hother))
    exact ⟨_, hname, hpath⟩
  have hread := read_of_mem_files hplain hnodup h _ hmem
  refine ⟨_, header ++ body, Setting.emission?_of_render hheader hbody, ?_⟩
  rwa [List.foldl_append]

end Plan

/-- After a real run that reports different files, each construct can be read from its own. -/
theorem Config.read_of_nodup {c : Config} {fs : FileSystem} {doc : Document} {o : Outcome}
    (hslash : ∀ stem ∈ doc.definitions.stems c.dialect, '/' ∉ stem.toList)
    (hreal : c.dryRun = false) (ho : (generate c fs doc).2 = .ok o) (hnodup : o.files.Nodup) :
    ∀ k ∈ doc.definitions.constructs, ∃ place content,
      (Setting.ofDocument c.dialect c.options (doc.recase c.dialect)).emission?
        (k.recase c.dialect) = some (place, content) ∧
      (generate c fs doc).1.read (place.foldl Path.join c.root) = .ok content := by
  obtain ⟨header, hheader⟩ := exists_header c.dialect
  obtain ⟨hfault, rfl⟩ := Plan.outcome_eq_ok.1 (Config.outcome_of_generate ho)
  have hrun : generate c fs doc = (c.plan doc).carryOut fs := by simp [generate, hreal]
  rw [hrun] at ho ⊢
  obtain ⟨fs₁, fs₂, -, hw, hfinal⟩ := Plan.carryOut_of_settled (by rw [ho, isSettled])
  simp only [Config.plan, Plan.ofDocument, hheader] at hfault hnodup hw
  rw [hfinal]
  have hread := Plan.read_of_renderAll hheader ?_ hfault hnodup hw
  · rwa [Document.constructs_recase, List.forall_mem_map] at hread
  · rw [← Definitions.stems_recase, ← Document.definitions_recase, List.forall_mem_map] at hslash
    exact hslash

/-- The constructs of a successful run, dry or not, have different files exactly if their names stay
different in the casing of the dialect, and none of them is cased to the name of the file of the
constants when there is one. Then each file of a real run has the text of its construct in the
end. -/
theorem generate_nodup_iff (c : Config) (fs : FileSystem) {doc : Document}
    (hwords : doc.definitions.HasWords) {o : Outcome} (ho : (generate c fs doc).2 = .ok o) :
    (o.files.Nodup ↔ (doc.definitions.names.map c.dialect.typeCase).Nodup ∧
      (doc.definitions.constants ≠ [] →
        .simple "Constants" ∉ doc.definitions.names.map c.dialect.typeCase)) ∧
    (c.dryRun = false → o.files.Nodup → ∀ k ∈ doc.definitions.constructs,
      ∃ place content, (Setting.ofDocument c.dialect c.options (doc.recase c.dialect)).emission?
          (k.recase c.dialect) = some (place, content) ∧
        (generate c fs doc).1.read (place.foldl Path.join c.root) = .ok content) := by
  have houtcome := Config.outcome_of_generate ho
  have hfiles : o.files = c.files doc := by rw [Config.eq_of_outcome houtcome]
  refine ⟨?_, fun hreal hnodup k hk => ?_⟩
  · rw [hfiles, Config.nodup_files_iff hwords, hwords.nodup_stems_iff]
  · exact Config.read_of_nodup (hwords.slash_notMem_stems c.dialect) hreal ho hnodup k hk

/-- A constant, an enum and two structs, one of which has the other's name as its first word. -/
theorem generate_nodup_shapes :
    let start : FileSystem := ⟨[(["out"], .directory)], [], fun _ _ => false⟩
    let point : Construct := .record ⟨.simple "line_point", .struct, []⟩
    let doc : Document := .mk [] ⟨[⟨.simple "sides", .i32, .int 3⟩],
      [⟨.simple "Color", [⟨.simple "RED", "", 1⟩]⟩],
      [⟨.simple "line", .struct, []⟩, ⟨.simple "line_point", .struct, []⟩], []⟩
    let c : Config := ⟨.java, ⟨"out"⟩, .none, false⟩
    let setting := Setting.ofDocument .java .none (doc.recase .java)
    ∃ o content, (generate c start doc).2 = .ok o ∧ o.files.Nodup ∧
      setting.emission? (point.recase .java) = some (["thrift", "LinePoint.java"], content) ∧
      (generate c start doc).1.read ⟨"out/thrift/LinePoint.java"⟩ = .ok content := by
  intro start point doc c setting
  have hwords : doc.definitions.HasWords := by decide +kernel
  have hnone : fault? (generate c start doc).2 = none := by decide +kernel
  obtain ⟨o, ho⟩ := fault?_eq_none.1 hnone
  obtain ⟨hiff, hread⟩ := generate_nodup_iff c start hwords ho
  have hnodup : o.files.Nodup := hiff.2 (by decide +kernel)
  obtain ⟨place, content, hplace, hcontent⟩ := hread rfl hnodup point (by decide)
  have hemitted : (setting.emission? (point.recase .java)).map (·.1) =
      some ["thrift", "LinePoint.java"] := by decide +kernel
  rw [show setting.emission? (point.recase .java) = _ from hplace, Option.map_some,
    Option.some.injEq] at hemitted
  subst hemitted
  have hpath : ["thrift", "LinePoint.java"].foldl Path.join ⟨"out"⟩ =
      ⟨"out/thrift/LinePoint.java"⟩ := by decide +kernel
  rw [hpath] at hcontent
  exact ⟨o, content, ho, hnodup, hplace, hcontent⟩

/-- Two names that differ have one file if they are the same words. -/
theorem generate_not_nodup_fooBar :
    let doc : Document := .mk [] ⟨[], [], [⟨.simple "foo_bar", .struct, []⟩,
      ⟨.simple "FooBar", .struct, []⟩], []⟩
    let c : Config := ⟨.scala, ⟨""⟩, .none, true⟩
    doc.definitions.HasWords ∧ doc.definitions.names.Nodup ∧
      .simple "Constants" ∉ doc.definitions.names ∧
      ∃ o, (generate c ⟨[], [], fun _ _ => false⟩ doc).2 = .ok o ∧ ¬ o.files.Nodup := by
  intro doc c
  refine ⟨by decide +kernel, by decide, by decide, ?_⟩
  refine ⟨⟨.simple "thrift", [⟨"thrift/FooBar.scala"⟩, ⟨"thrift/FooBar.scala"⟩]⟩, ?_, by decide⟩
  decide +kernel

end StubForge
