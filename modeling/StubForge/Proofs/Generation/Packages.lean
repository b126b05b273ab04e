import StubForge.Proofs.Generation.Confinement
import StubForge.Proofs.Generation.Declarations
import StubForge.Proofs.Generation.DistinctFiles
import StubForge.Proofs.Template.Marks
import StubForge.Proofs.Template.Parts

/-! Where Java expects a file: in the directories that its own package line names, under the name of
what it declares. A package line escapes keywords, and the directories do not. -/
namespace StubForge
open Template

/-! ## Words -/

namespace Text

theorem isAlphanum_of_mem_word {t : List Char} (h : isWord t = true) {c : Char} (hc : c ∈ t) :
    c.isAlphanum = true ∨ c = '_' := by
  rw [isWord, Bool.and_eq_true, List.all_eq_true] at h
  simpa using h.2 c hc

theorem notMem_word {t : List Char} (h : isWord t = true) {c : Char}
    (hc : c.isAlphanum = false ∧ c ≠ '_') : c ∉ t := by
  intro hmem
  rcases isAlphanum_of_mem_word h hmem with hletter | hline
  · exact Bool.false_ne_true (hc.1.symm.trans hletter)
  · exact hc.2 hline

end Text

theorem Path.Plain.of_isWord {segment : String} (h : Text.isWord segment.toList = true) :
    Path.Plain segment := by
  have hdot : '.' ∉ segment.toList := Text.notMem_word h (by decide)
  refine ⟨?_, Text.notMem_word h (by decide), ?_, ?_⟩
  · rintro rfl
    exact Bool.false_ne_true h
  · rintro rfl
    exact hdot (by decide)
  · rintro rfl
    exact hdot (by decide)

/-- An identifier that has segments, all of them words. -/
structure Identifier.OfWords (id : Identifier) : Prop where
  ne_nil : id.segments ≠ []
  isWord : ∀ s ∈ id.segments, Text.isWord s.toList = true

/-! ## Dots and slashes -/

/-- A package as a text, with a slash for each dot. -/
def slashed (package : String) : String :=
  String.ofList (package.toList.map fun c => if c = '.' then '/' else c)

theorem length_slashed (package : String) : (slashed package).length = package.length := by
  rw [← String.length_toList, slashed, String.toList_ofList, List.length_map,
    String.length_toList]

theorem slashed_append (first second : String) :
    slashed (first ++ second) = slashed first ++ slashed second := by
  simp [slashed, String.ofList_append]

theorem slashed_of_dot_notMem {s : String} (h : '.' ∉ s.toList) : slashed s = s := by
  have hmap : s.toList.map (fun c => if c = '.' then '/' else c) = s.toList := by
    refine (List.map_congr_left fun c hc => ?_).trans (List.map_id _)
    have hdot : c ≠ '.' := fun heq => h (heq ▸ hc)
    rw [if_neg hdot, id_eq]
  rw [slashed, hmap, String.ofList_toList]

/-- The first character stays what it is if it is no dot. -/
theorem head?_slashed {s : String} {c : Char} (h : s.toList.head? = some c) (hc : c ≠ '.') :
    (slashed s).toList.head? = some c := by
  rw [slashed, String.toList_ofList, List.head?_map, h, Option.map_some, if_neg hc]

theorem slashed_intercalate {segments : List String} (h : ∀ s ∈ segments, '.' ∉ s.toList) :
    slashed (".".intercalate segments) = "/".intercalate segments := by
  induction segments with
  | nil => rfl
  | cons s r ih =>
    rw [List.forall_mem_cons] at h
    cases r with
    | nil =>
      rw [String.intercalate_singleton, String.intercalate_singleton, slashed_of_dot_notMem h.1]
    | cons t r =>
      have hdot : slashed "." = "/" := by decide
      rw [String.intercalate_cons_cons, String.intercalate_cons_cons, slashed_append,
        slashed_append, ih h.2, slashed_of_dot_notMem h.1, hdot]

/-! ## What a file says about itself -/

namespace Construct

/-- The key under which the dictionary of a construct has the name that is declared, and this name.
Constants have none. -/
def declared? : Construct → Option (String × Identifier)
  | constants _ => none
  | enumeration e => some ("EnumName", e.name)
  | record r => some ("StructName", r.name)
  | service s => some ("ServiceName", s.name)

theorem declared?_recase (d : Dialect) (k : Construct) :
    (k.recase d).declared? = k.declared?.map fun (key, id) => (key, d.typeCase id) := by
  cases k <;> rfl

theorem stem_eq_name {k : Construct} {key : String} {id : Identifier}
    (h : k.declared? = some (key, id)) : k.stem = id.name := by
  cases k <;> cases h <;> rfl

theorem codes_of_declared {s : Setting} {k : Construct} {key : String} {id : Identifier}
    (h : k.declared? = some (key, id)) {dict : Dictionary} (hdict : k.dictionary s = .ok dict) :
    dict.code? "package" = some (s.naming.identifier s.package) ∧
      dict.code? key = some (s.naming.identifier id) := by
  cases k with
  | constants items => cases h
  | enumeration e =>
    cases h
    cases hdict
    exact ⟨rfl, rfl⟩
  | record r =>
    cases h
    obtain ⟨body, hbody, hdict⟩ := bind_eq_ok.1 hdict
    obtain ⟨fields, -, hbody⟩ := bind_eq_ok.1 hbody
    cases hbody
    cases hdict
    exact ⟨rfl, rfl⟩
  | service v =>
    cases h
    obtain ⟨methods, -, hdict⟩ := bind_eq_ok.1 hdict
    obtain ⟨records, -, hdict⟩ := bind_eq_ok.1 hdict
    cases hdict
    exact ⟨rfl, rfl⟩

/-- Every Java file starts with the line of its package. -/
theorem find?_java_template (k : Construct) : ∃ after nodes,
    javaTemplates.find? k.template =
      some (.text "package " :: .value "package" :: .text (";\n" ++ after) :: nodes) := by
  cases k with
  | record r =>
    by_cases hunion : r.kind = .union
    · rw [template, if_pos hunion]
      exact ⟨"\nimport java.nio.ByteBuffer;\nimport java.util.*;\n", _, rfl⟩
    · rw [template, if_neg hunion]
      exact ⟨"\nimport java.nio.ByteBuffer;\nimport java.util.*;\n", _, rfl⟩
  | enumeration e => exact ⟨"\npublic enum ", _, rfl⟩
  | _ => exact ⟨"\nimport java.nio.ByteBuffer;\nimport java.util.*;\n", _, rfl⟩

theorem render_java_package {s : Setting} (hs : s.naming.dialect = .java) {k : Construct}
    {dict : Dictionary} (hdict : k.dictionary s = .ok dict) {package : String}
    (hpackage : dict.code? "package" = some package) {text : String}
    (h : k.render s = .ok text) : ∃ rest, text = "package " ++ package ++ ";\n" ++ rest := by
  obtain ⟨dict', hdict', hrender⟩ := render_eq_ok.1 h
  obtain rfl : dict = dict' := Except.ok.inj (hdict.symm.trans hdict')
  obtain ⟨after, nodes, hnodes⟩ := k.find?_java_template
  have hvalue : resolve [dict] "package" = some (.code package) :=
    resolve_of_get? (Dictionary.code?_eq_some.1 hpackage) []
  rw [hs, Dialect.templates, TemplateSet.render, TemplateSet.maxDepth, TemplateSet.renderWithin,
    hnodes] at hrender
  simp only [renderNodes_cons_eq_ok, renderNode_text, renderNode_value hvalue,
    Except.ok.injEq] at hrender
  obtain ⟨_, _, rfl, ⟨_, _, rfl, ⟨_, rest, rfl, -, rfl⟩, rfl⟩, rfl⟩ := hrender
  exact ⟨after ++ rest, by simp only [String.append_assoc]⟩

end Construct

/-! ## Places -/

/-- Escaping in Java changes nothing at the start of a name. -/
theorem Dialect.head?_quoteKeyword_java {s : String} {c : Char} (h : s.toList.head? = some c) :
    (java.quoteKeyword s).toList.head? = some c := by
  rw [quoteKeyword]
  split
  · rw [escape, String.toList_append, List.head?_append, h, Option.some_or]
  · exact h

/-- A file in the directories of a package of words is where the package line says exactly if no
segment of the package is a keyword. -/
theorem Path.directory_eq_slashed_iff {n : Naming} (hn : n.dialect = .java) (root : Path)
    {package : Identifier} (h : package.OfWords) {name : String}
    (hname : name.toList.head? ≠ some '/') :
    (packageDirectory root package).join name =
        root.join (slashed (n.identifier package) ++ "/" ++ name) ↔
      ∀ s ∈ package.segments, Dialect.java.isKeyword s = false := by
  have hplain : ∀ s ∈ package.segments, Plain s := fun s hs => .of_isWord (h.isWord s hs)
  have hdot : ∀ s ∈ package.segments, '.' ∉ s.toList := fun s hs =>
    Text.notMem_word (h.isWord s hs) (by decide)
  have hjoined : (packageDirectory root package).join name =
      root.join (slashed package.fullName ++ "/" ++ name) := by
    rw [packageDirectory, root.foldl_join_join hplain h.ne_nil hname, Identifier.fullName,
      slashed_intercalate hdot]
  have hkeywords := n.length_identifier_eq_iff package
  rw [hn] at hkeywords
  -- Both texts start with the first letter of the package, so neither leads back to the root.
  obtain ⟨s, r, hs⟩ := List.exists_cons_of_ne_nil h.ne_nil
  obtain ⟨c, hslash, hc⟩ := (hplain s (hs ▸ List.mem_cons_self)).exists_head?
  have hletter : c ≠ '.' := by
    rintro rfl
    exact hdot s (hs ▸ List.mem_cons_self) (List.mem_of_mem_head? hc)
  have hrelative {text : String} (htext : text.toList.head? = some c) :
      (slashed text ++ "/" ++ name).toList.head? ≠ some '/' := by
    rw [String.append_assoc, String.toList_append, List.head?_append, head?_slashed htext hletter,
      Option.some_or]
    exact fun heq => hslash (Option.some.inj heq)
  have hfull : package.fullName.toList.head? = some c := by
    rw [Identifier.fullName, hs]
    exact Text.head?_intercalate _ hc r
  have hescaped : (n.identifier package).toList.head? = some c := by
    rw [Naming.identifier, hs, hn, List.map_cons]
    exact Text.head?_intercalate _ (Dialect.head?_quoteKeyword_java hc) _
  rw [hjoined, root.join_right_inj (hrelative hfull) (hrelative hescaped),
    String.append_left_inj, String.append_left_inj, ← hkeywords]
  constructor
  · intro heq
    rw [← length_slashed, ← heq, length_slashed]
  · intro hlength
    have hnone := hkeywords.1 hlength
    rw [← hn] at hnone
    rw [(n.identifier_eq_fullName_iff package).2 hnone]

/-- A simple name that is declared, in title case, is the stem of its file and needs no escape. -/
theorem Construct.identifier_eq_stem {n : Naming} {k : Construct} {key name : String}
    (h : k.declared? = some (key, .simple name)) :
    n.identifier (n.dialect.typeCase (.simple name)) = (k.recase n.dialect).stem := by
  have hcased : (k.recase n.dialect).declared? =
      some (key, n.dialect.typeCase (.simple name)) := by rw [declared?_recase, h, Option.map_some]
  have hkeyword := n.dialect.isKeyword_typeCase (.simple name)
  have hsimple : n.identifier (n.dialect.typeCase (.simple name)) =
      n.dialect.quoteKeyword (n.dialect.typeCase (.simple name)).name := n.identifier_simple _
  rw [hsimple, Dialect.quoteKeyword, hkeyword, if_neg Bool.false_ne_true, stem_eq_name hcased]

/-- In a run without a fault every construct has a file. -/
theorem Config.exists_file {c : Config} {fs : FileSystem} {doc : Document} {o : Outcome}
    (ho : (generate c fs doc).2 = .ok o) {i : Nat} {k : Construct}
    (hk : doc.definitions.constructs[i]? = some k) :
    ∃ file, (c.plan doc).files[i]? = some file ∧ o.files[i]? = some file.1 := by
  have hplanned := outcome_of_generate ho
  obtain ⟨-, hfiles⟩ := Plan.outcome_eq_ok.1 hplanned
  have hlength : (c.plan doc).files.length = doc.definitions.constructs.length := by
    have hpaths := congrArg (fun o => o.files.length) (eq_of_outcome hplanned)
    simp only [hfiles, List.length_map, files, ← Definitions.stems_recase,
      ← Document.definitions_recase, Document.constructs_recase] at hpaths
    exact hpaths
  obtain ⟨hlt, -⟩ := List.getElem?_eq_some_iff.1 hk
  have hfile : (c.plan doc).files[i]? = some (c.plan doc).files[i] :=
    List.getElem?_eq_getElem (hlength ▸ hlt)
  refine ⟨_, hfile, ?_⟩
  rw [hfiles, List.getElem?_map, hfile, Option.map_some]

/-- The Java file of an enum, a struct or a service, in a package of words, starts with a package
line and declares a name. It is in the directories that the package line names, under the name that
it declares, exactly if no segment of the package is a keyword: the line escapes such a segment and
the directory does not. -/
theorem generate_java_place_iff {c : Config} (hjava : c.dialect = .java) {fs : FileSystem}
    {doc : Document} {o : Outcome} (ho : (generate c fs doc).2 = .ok o)
    (hwords : (doc.packageFor .java).OfWords) {i : Nat} {k : Construct}
    (hk : doc.definitions.constructs[i]? = some k) {key : String} {id : Identifier}
    (hdeclared : k.declared? = some (key, id)) (hid : id.isWord = true) :
    ∃ path text dict package name, o.files[i]? = some path ∧
      (c.plan doc).files[i]? = some (path, text) ∧
      (k.recase .java).dictionary (.ofDocument .java c.options (doc.recase .java)) = .ok dict ∧
      dict.code? "package" = some package ∧ dict.code? key = some name ∧
      (∃ rest, text = "package " ++ package ++ ";\n" ++ rest) ∧
      (path = c.root.join (slashed package ++ "/" ++ name ++ ".java") ↔
        ∀ s ∈ (doc.packageFor .java).segments, Dialect.java.isKeyword s = false) := by
  obtain ⟨⟨path, text⟩, hfile, hpath⟩ := Config.exists_file ho hk
  obtain ⟨k', hk', hrender, hjoin⟩ := Plan.getElem?_files_ofDocument hfile
  obtain rfl : k = k' := Option.some.inj (hk.symm.trans hk')
  rw [hjava] at hrender hjoin
  obtain ⟨dict, hdict, -⟩ := Construct.render_eq_ok.1 hrender
  cases id with
  | qualified segments => cases hid
  | simple word =>
    let s := Setting.ofDocument .java c.options (doc.recase .java)
    obtain ⟨hpackage, hname⟩ := Construct.codes_of_declared
      ((k.declared?_recase .java).trans (congrArg (Option.map _) hdeclared)) hdict
    have hsame : s.package = doc.packageFor .java := doc.packageFor_recase .java
    have hstem : s.naming.identifier (Dialect.java.typeCase (.simple word)) =
        (k.recase .java).stem := Construct.identifier_eq_stem (n := s.naming) hdeclared
    have hslash : '/' ∉ (k.recase .java).stem.toList := by
      intro hmem
      have hdeclares := Construct.sign_mem_stem (by decide) hmem
      rw [Construct.stem_eq_name hdeclared] at hdeclares
      exact Text.notMem_word hid (by decide) hdeclares
    have hfileName := (Dialect.java.plain_fileName hslash).downward.relative
    have hplace := Path.directory_eq_slashed_iff (n := s.naming) rfl c.root hwords hfileName
    rw [← String.append_assoc] at hplace
    rw [hsame] at hpackage
    rw [Plan.directory_ofDocument] at hjoin
    refine ⟨path, text, dict, _, _, hpath, hfile, hdict, hpackage,
      hname.trans (congrArg some hstem), Construct.render_java_package rfl hdict hpackage hrender,
      ?_⟩
    obtain rfl : path = _ := hjoin
    exact hplace

/-- An enum and a service in a package without keywords. -/
theorem generate_java_place_user_store :
    let store : Construct := .service ⟨.simple "user_store", none, []⟩
    let doc : Document := .mk [.package "java" (.parse "com.example.users")]
      ⟨[], [⟨.simple "role", [⟨.simple "admin", "", 1⟩]⟩], [], [⟨.simple "user_store", none, []⟩]⟩
    let c : Config := ⟨.java, ⟨"out"⟩, .none, true⟩
    let fs : FileSystem := ⟨[], [], fun _ _ => false⟩
    ∃ o dict, (generate c fs doc).2 = .ok o ∧ (doc.packageFor .java).OfWords ∧
      (store.recase .java).dictionary (.ofDocument .java c.options (doc.recase .java)) = .ok dict ∧
      dict.code? "package" = some "com.example.users" ∧
      dict.code? "ServiceName" = some "UserStore" ∧
      o.files[1]? = some (c.root.join (slashed "com.example.users" ++ "/" ++ "UserStore" ++
        ".java")) := by
  intro store doc c fs
  have hnone : fault? (generate c fs doc).2 = none := by decide +kernel
  obtain ⟨o, ho⟩ := fault?_eq_none.1 hnone
  have hwords : (doc.packageFor .java).OfWords := ⟨by decide +kernel, by decide +kernel⟩
  have hstore : doc.definitions.constructs[1]? = some store := rfl
  have hword : (Identifier.simple "user_store").isWord = true := by decide
  obtain ⟨path, text, dict, package, name, hpath, -, hdict, hpackage, hname, -, hiff⟩ :=
    generate_java_place_iff rfl ho hwords hstore rfl hword
  have hcodes : ((store.recase .java).dictionary
      (.ofDocument .java c.options (doc.recase .java))).map
        (fun dict => (dict.code? "package", dict.code? "ServiceName")) =
      .ok (some "com.example.users", some "UserStore") := by decide +kernel
  simp only [hdict, Except.map, hpackage, hname] at hcodes
  cases hcodes
  have hfree : ∀ s ∈ (doc.packageFor .java).segments, Dialect.java.isKeyword s = false := by
    decide +kernel
  exact ⟨o, dict, ho, hwords, hdict, hpackage, hname, hpath.trans (congrArg some (hiff.2 hfree))⟩

/-- The file of a struct in the package `com.default.shared` says `com.default_.shared` and is below
`com/default/shared`. -/
theorem generate_java_place_default :
    let point : Construct := .record ⟨.simple "Point", .struct, []⟩
    let doc : Document := .mk [.package "java" (.parse "com.default.shared")]
      ⟨[], [], [⟨.simple "Point", .struct, []⟩], []⟩
    let c : Config := ⟨.java, ⟨"out"⟩, .none, true⟩
    (doc.packageFor .java).OfWords ∧ (Identifier.simple "Point").isWord = true ∧ ∃ dict,
      (point.recase .java).dictionary (.ofDocument .java .none (doc.recase .java)) = .ok dict ∧
      dict.code? "package" = some "com.default_.shared" ∧
      dict.code? "StructName" = some "Point" ∧
      (generate c ⟨[], [], fun _ _ => false⟩ doc).2 =
        .ok ⟨.parse "com.default.shared", [⟨"out/com/default/shared/Point.java"⟩]⟩ ∧
      (⟨"out/com/default/shared/Point.java"⟩ : Path) ≠
        c.root.join (slashed "com.default_.shared" ++ "/" ++ "Point" ++ ".java") := by
  intro point doc c
  have hwords : (doc.packageFor .java).OfWords := ⟨by decide +kernel, by decide +kernel⟩
  exact ⟨hwords, by decide, _, rfl, by decide +kernel, by decide +kernel, by decide +kernel,
    by decide +kernel⟩

end StubForge
