import StubForge.Proofs.Generation.Nesting
import StubForge.Proofs.Generation.Separation
import StubForge.Proofs.Storage.Blank

/-! How far the options of services reach: into the files of services, and there not into the
structs of the methods. -/
namespace StubForge
open Template

/-! ## Keys of the options -/

/-- The keys of the flags of the options. -/
def optionKeys : List String := ServiceOption.all.map ServiceOption.flagName

theorem ServiceOptions.get?_dictionary (options : ServiceOptions) {key : String}
    (h : optionKeys.contains key = false) : options.dictionary.get? key = Option.none := by
  have hne (o : ServiceOption) : o.flagName ≠ key := by
    rintro rfl
    revert h
    cases o <;> decide
  simp only [ServiceOptions.dictionary, ServiceOption.all, List.map_cons, List.map_nil,
    Dictionary.get?_cons, if_neg (hne _), Dictionary.get?_nil]

theorem agree_options (core : Dictionary) (a b : ServiceOptions) :
    Agree optionKeys [core ++ a.dictionary] [core ++ b.dictionary] := by
  intro key hkey
  simp only [resolve, List.findSome?_cons, Dictionary.get?_append, a.get?_dictionary hkey,
    b.get?_dictionary hkey]

/-! ## Dictionaries under two sets of options -/

/-- The same setting with other options. -/
def Setting.withOptions (s : Setting) (options : ServiceOptions) : Setting :=
  { s with options := options }

namespace Construct

variable (s : Setting) (a b : ServiceOptions) (k : Construct)

/-- Under two sets of options a construct has the same fault, or dictionaries that differ in the
flags of the options only. -/
theorem dictionary_withOptions :
    (∃ fault, k.dictionary (s.withOptions a) = .error fault ∧
      k.dictionary (s.withOptions b) = .error fault) ∨
    ∃ dict dict', k.dictionary (s.withOptions a) = .ok dict ∧
      k.dictionary (s.withOptions b) = .ok dict' ∧ Agree optionKeys [dict] [dict'] := by
  have hsame (result : Except Fault Dictionary) :
      (∃ fault, result = .error fault ∧ result = .error fault) ∨
        ∃ dict dict', result = .ok dict ∧ result = .ok dict' ∧ Agree optionKeys [dict] [dict'] := by
    cases result with
    | error fault => exact .inl ⟨fault, rfl, rfl⟩
    | ok dict => exact .inr ⟨dict, dict, rfl, rfl, fun _ _ => rfl⟩
  cases k with
  | constants items => exact hsame _
  | enumeration e => exact hsame _
  | record r =>
    simp only [dictionary, Record.dictionary, Setting.withOptions]
    cases r.body s.naming with
    | error fault => exact .inl ⟨fault, rfl, rfl⟩
    | ok body => exact .inr ⟨_, _, rfl, rfl, agree_options _ a b⟩
  | service v =>
    simp only [dictionary, Service.dictionary, Setting.withOptions]
    cases v.methods.mapM (·.dictionary s.naming) with
    | error fault => exact .inl ⟨fault, rfl, rfl⟩
    | ok methods =>
      simp only [bind, Except.bind]
      cases (v.methods.flatMap Method.records).mapM (·.body s.naming) with
      | error fault => exact .inl ⟨fault, rfl, rfl⟩
      | ok records => exact .inr ⟨_, _, rfl, rfl, agree_options _ a b⟩

theorem fault?_render_withOptions :
    fault? (k.render (s.withOptions a)) = fault? (k.render (s.withOptions b)) := by
  rw [fault?_render, fault?_render]
  rcases k.dictionary_withOptions s a b with ⟨fault, ha, hb⟩ | ⟨dict, dict', ha, hb, -⟩
  · rw [ha, hb]
    rfl
  · rw [ha, hb]
    rfl

def isService : Construct → Bool
  | service _ => true
  | _ => false

theorem isService_recase (d : Dialect) (k : Construct) : (k.recase d).isService = k.isService := by
  cases k <;> rfl

/-- No template but that of a service looks at the options. -/
theorem avoids_optionKeys (d : Dialect) (h : k.isService = false) :
    d.templates.avoids optionKeys 3 k.template = true := by
  have hall : ∀ name ∈ ["consts", "enum", "struct", "union"],
      d.templates.avoids optionKeys 3 name = true := by cases d <;> decide +kernel
  refine hall _ ?_
  cases k with
  | service v => cases h
  | record r =>
    rw [template]
    split <;> simp
  | _ => simp [template]

theorem render_withOptions (h : k.isService = false) :
    k.render (s.withOptions a) = k.render (s.withOptions b) := by
  have hdialect (options : ServiceOptions) :
      (s.withOptions options).naming.dialect = s.naming.dialect := rfl
  simp only [render, hdialect]
  rcases k.dictionary_withOptions s a b with ⟨fault, ha, hb⟩ | ⟨dict, dict', ha, hb, hagree⟩
  · rw [ha, hb]
  · have hdepth := s.naming.dialect.three_le_maxDepth
    have htext : s.naming.dialect.templates.render k.template dict =
        s.naming.dialect.templates.render k.template dict' :=
      TemplateSet.renderWithin_congr (k.avoids_optionKeys s.naming.dialect h) hdepth hdepth _ _
        hagree
    rw [ha, hb]
    simp only [htext]

end Construct

/-! ## Files of services -/

/-- Two files of a service, with the same parts for the structs of its methods. Each of these is
rendered in both as it is by itself. -/
def SharesStructs (d : Dialect) (dict dict' : Dictionary) (text text' : String) : Prop :=
  ∃ records parts before after before' after',
    dict.list? "function_structs" = some records ∧ dict'.list? "function_structs" = some records ∧
    text = before ++ String.join parts ++ after ∧ text' = before' ++ String.join parts ++ after' ∧
    List.Forall₂ (fun record part => ∃ name body, IsNested d dict record name body part ∧
      IsNested d dict' record name body part) records parts

theorem IsNested.unique {d : Dialect} {service service' record : Dictionary}
    {name name' body body' part part' : String} (h : IsNested d service record name body part)
    (h' : IsNested d service' record name' body' part') :
    name = name' ∧ body = body' ∧ part = part' := by
  obtain rfl : name = name' := Option.some.inj (h.named.symm.trans h'.named)
  obtain rfl : body = body' := Except.ok.inj (h.alone.symm.trans h'.alone)
  exact ⟨rfl, rfl, h.placed.trans h'.placed.symm⟩

theorem forall₂_isNested {d : Dialect} {service service' : Dictionary}
    {records : List Dictionary} {parts parts' : List String}
    (h : List.Forall₂ (fun record part => ∃ name body, IsNested d service record name body part)
      records parts)
    (h' : List.Forall₂ (fun record part => ∃ name body, IsNested d service' record name body part)
      records parts') :
    parts = parts' ∧ List.Forall₂ (fun record part => ∃ name body,
      IsNested d service record name body part ∧ IsNested d service' record name body part)
      records parts := by
  induction h generalizing parts' with
  | nil =>
    cases h'
    exact ⟨rfl, .nil⟩
  | cons hpart hparts ih =>
    obtain ⟨name, body, hnested⟩ := hpart
    cases h' with
    | cons hpart' hparts' =>
      obtain ⟨name', body', hnested'⟩ := hpart'
      obtain ⟨rfl, rfl, rfl⟩ := hnested.unique hnested'
      obtain ⟨rfl, hrest⟩ := ih hparts'
      exact ⟨rfl, .cons ⟨_, _, hnested, hnested'⟩ hrest⟩

theorem Construct.sharesStructs {s : Setting} {a b : ServiceOptions} {v : Service}
    {dict dict' : Dictionary} (hdict : (service v).dictionary (s.withOptions a) = .ok dict)
    (hdict' : (service v).dictionary (s.withOptions b) = .ok dict') {text text' : String}
    (htext : s.naming.dialect.templates.render "service" dict = .ok text)
    (htext' : s.naming.dialect.templates.render "service" dict' = .ok text') :
    SharesStructs s.naming.dialect dict dict' text text' := by
  have hagree : Agree optionKeys [dict] [dict'] := by
    have hcases := (service v).dictionary_withOptions s a b
    rw [hdict, hdict'] at hcases
    obtain ⟨fault, hfault, -⟩ | ⟨_, _, hfirst, hsecond, hagree⟩ := hcases
    · cases hfault
    · cases hfirst
      cases hsecond
      exact hagree
  obtain ⟨records, hrecords, -⟩ := Service.exists_records (n := s.naming) hdict
  have hrecords' : dict'.get? "function_structs" = some (.list records) := by
    have hsame := hagree "function_structs" (by decide)
    rw [resolve_of_get? hrecords []] at hsame
    simpa [resolve] using hsame.symm
  obtain ⟨before, parts, after, rfl, hparts⟩ :=
    Service.exists_parts (n := s.naming) hdict hrecords htext
  obtain ⟨before', parts', after', rfl, hparts'⟩ :=
    Service.exists_parts (n := s.naming) hdict' hrecords' htext'
  obtain ⟨rfl, hboth⟩ := forall₂_isNested hparts hparts'
  exact ⟨records, parts, before, after, before', after', Dictionary.list?_eq_some.2 hrecords,
    Dictionary.list?_eq_some.2 hrecords', rfl, rfl, hboth⟩

/-! ## Plans without texts -/

namespace Plan

/-- The same files, with nothing in them. -/
def blank (p : Plan) : Plan :=
  { p with header := "", files := p.files.map fun file => (file.1, "") }

theorem outcome_blank (p : Plan) : p.blank.outcome = p.outcome := by
  rw [outcome, outcome, blank]
  cases p.fault with
  | some fault => rfl
  | none => simp only [List.map_map, Function.comp_def]

theorem writeAll_blank (header : String) (fs : FileSystem) (files : List (Path × String)) :
    writeAll "" fs.blank (files.map fun file => (file.1, "")) =
      (writeAll header fs files).map FileSystem.blank id := by
  induction files generalizing fs with
  | nil => rfl
  | cons file files ih =>
    obtain ⟨path, body⟩ := file
    rw [List.map_cons, writeAll, writeAll, fs.writeFile_blank path header body]
    cases fs.writeFile path header body with
    | mk fs₁ outcome =>
      cases outcome with
      | error fault => rfl
      | ok u => exact ih fs₁

/-- Without any text a plan has the same outcome, and leaves the same tree. -/
theorem carryOut_blank (p : Plan) (fs : FileSystem) :
    p.blank.carryOut fs.blank = (p.carryOut fs).map FileSystem.blank id := by
  have hdirectory : fs.blank.ensureDirectory p.blank.directory =
      (fs.ensureDirectory p.directory).map FileSystem.blank id :=
    fs.ensureDirectory_blank p.directory
  rw [carryOut, carryOut, hdirectory]
  cases fs.ensureDirectory p.directory with
  | mk fs₁ outcome =>
    cases outcome with
    | error fault => rfl
    | ok u =>
      have hfiles : writeAll p.blank.header fs₁.blank p.blank.files =
          (writeAll p.header fs₁ p.files).map FileSystem.blank id :=
        writeAll_blank p.header fs₁ p.files
      simp only [Prod.map_apply, id_eq, hfiles]
      cases writeAll p.header fs₁ p.files with
      | mk fs₂ outcome =>
        cases outcome with
        | error fault => rfl
        | ok u => simp only [Prod.map_apply, id_eq, outcome_blank]

/-- The paths, and the fault at the end, depend on which constructs have a text only. -/
theorem renderAll_paths {s t : Setting} (hdialect : s.naming.dialect = t.naming.dialect)
    (h : ∀ k : Construct, fault? (k.render s) = fault? (k.render t)) (directory : Path)
    (ks : List Construct) :
    (renderAll s directory ks).1.map (·.1) = (renderAll t directory ks).1.map (·.1) ∧
      (renderAll s directory ks).2 = (renderAll t directory ks).2 := by
  induction ks with
  | nil => exact ⟨rfl, rfl⟩
  | cons k ks ih =>
    have hk := h k
    rw [renderAll, renderAll]
    cases hs : k.render s with
    | error fault =>
      cases ht : k.render t with
      | error fault' =>
        rw [hs, ht] at hk
        cases hk
        exact ⟨rfl, rfl⟩
      | ok text =>
        rw [hs, ht] at hk
        cases hk
    | ok text =>
      cases ht : k.render t with
      | error fault =>
        rw [hs, ht] at hk
        cases hk
      | ok text' => exact ⟨by simp only [List.map_cons, ih.1, hdialect], ih.2⟩

theorem blank_ofDocument (d : Dialect) (root : Path) (a b : ServiceOptions) (doc : Document) :
    (ofDocument d root a doc).blank = (ofDocument d root b doc).blank := by
  obtain ⟨header, hheader⟩ := exists_header d
  let s := Setting.ofDocument d .none (doc.recase d)
  obtain ⟨hpaths, hfault⟩ := renderAll_paths (s := s.withOptions a) (t := s.withOptions b) rfl
    (fun k => k.fault?_render_withOptions s a b) (packageDirectory root s.package)
    (doc.recase d).definitions.constructs
  have hempty (files : List (Path × String)) : files.map (fun file => (file.1, "")) =
      (files.map (·.1)).map fun path => (path, "") := by
    rw [List.map_map]
    rfl
  have hsetting (options : ServiceOptions) :
      Setting.ofDocument d options (doc.recase d) = s.withOptions options := rfl
  have hpackage (options : ServiceOptions) : (s.withOptions options).package = s.package := rfl
  simp only [blank, ofDocument, hheader, hsetting, hpackage, hempty, hpaths, hfault]

/-- The paths in a plan, and the fault at its end, are the same under all options. -/
theorem path?_ofDocument (d : Dialect) (root : Path) (a b : ServiceOptions) (doc : Document)
    (i : Nat) : ((ofDocument d root a doc).files[i]?).map (·.1) =
      ((ofDocument d root b doc).files[i]?).map (·.1) := by
  have hfiles := congrArg (fun p => (p.files[i]?).map (·.1)) (blank_ofDocument d root a b doc)
  simpa only [blank, List.getElem?_map, Option.map_map, Function.comp_def] using hfiles

end Plan

/-! ## Runs under two sets of options -/

/-- Plans that differ in texts only are carried out with the same outcome and the same tree. -/
theorem generate_of_blank {c c' : Config} {doc : Document} (hdry : c.dryRun = c'.dryRun)
    (h : (c.plan doc).blank = (c'.plan doc).blank) (fs : FileSystem) :
    (generate c fs doc).2 = (generate c' fs doc).2 ∧
      (generate c fs doc).1.blank = (generate c' fs doc).1.blank := by
  rw [generate, generate, hdry]
  split
  · exact ⟨by rw [← Plan.outcome_blank, h, Plan.outcome_blank], rfl⟩
  · have hfirst := (c.plan doc).carryOut_blank fs
    rw [h, (c'.plan doc).carryOut_blank fs] at hfirst
    exact ⟨(congrArg Prod.snd hfirst).symm, (congrArg Prod.fst hfirst).symm⟩

theorem Plan.exists_file_options {d : Dialect} {root : Path} {a : ServiceOptions}
    {doc : Document} {i : Nat} {path : Path} {text : String}
    (h : (ofDocument d root a doc).files[i]? = some (path, text)) (b : ServiceOptions) :
    ∃ text', (ofDocument d root b doc).files[i]? = some (path, text') := by
  have hpath := path?_ofDocument d root a b doc i
  rw [h, Option.map_some, eq_comm, Option.map_eq_some_iff] at hpath
  obtain ⟨⟨_, text'⟩, hfile, rfl⟩ := hpath
  exact ⟨text', hfile⟩

/-- A file that is not of a service is in the plans under all options. -/
theorem Plan.file_withOptions {d : Dialect} {root : Path} {a : ServiceOptions} {doc : Document}
    {i : Nat} {k : Construct} (hk : doc.definitions.constructs[i]? = some k)
    (hservice : k.isService = false) {file : Path × String}
    (h : (ofDocument d root a doc).files[i]? = some file) (b : ServiceOptions) :
    (ofDocument d root b doc).files[i]? = some file := by
  obtain ⟨path, text⟩ := file
  obtain ⟨text', hfile'⟩ := exists_file_options h b
  obtain ⟨first, hfirst, hrender, -⟩ := getElem?_files_ofDocument h
  obtain ⟨second, hsecond, hrender', -⟩ := getElem?_files_ofDocument hfile'
  obtain rfl : first = k := Option.some.inj (hfirst.symm.trans hk)
  obtain rfl : second = first := Option.some.inj (hsecond.symm.trans hk)
  have hcased : (second.recase d).isService = false := (second.isService_recase d).trans hservice
  have hsame := (second.recase d).render_withOptions (.ofDocument d .none (doc.recase d)) a b hcased
  have htext : text = text' := Except.ok.inj (hrender.symm.trans (hsame.trans hrender'))
  rw [hfile', ← htext]

/-- A run under any options ends in the same way, with the same tree. The files of constants, enums,
structs, unions and exceptions are the same under all options, and so is what the file of a service
has for the structs of its methods. -/
theorem generate_options (c : Config) (options : ServiceOptions) (doc : Document) :
    let other : Config := { c with options := options }
    (∀ fs, (generate c fs doc).2 = (generate other fs doc).2 ∧
      (generate c fs doc).1.blank = (generate other fs doc).1.blank) ∧
    (c.plan doc).header = (other.plan doc).header ∧
    ∀ (i : Nat) (k : Construct), doc.definitions.constructs[i]? = some k →
      (k.isService = false → (c.plan doc).files[i]? = (other.plan doc).files[i]?) ∧
      ∀ service, k = .service service → ∀ path text, (c.plan doc).files[i]? = some (path, text) →
        ∃ text' dict dict', (other.plan doc).files[i]? = some (path, text') ∧
          (k.recase c.dialect).dictionary
            (.ofDocument c.dialect c.options (doc.recase c.dialect)) = .ok dict ∧
          (k.recase c.dialect).dictionary
            (.ofDocument c.dialect options (doc.recase c.dialect)) = .ok dict' ∧
          SharesStructs c.dialect dict dict' text text' := by
  intro other
  have hblank : (c.plan doc).blank = (other.plan doc).blank :=
    Plan.blank_ofDocument c.dialect c.root c.options options doc
  refine ⟨generate_of_blank rfl hblank, Plan.header_congr _ _ _ _ _ _, fun i k hk => ⟨?_, ?_⟩⟩
  · intro hservice
    refine Option.ext fun file => ⟨fun hfile => ?_, fun hfile => ?_⟩
    · exact Plan.file_withOptions hk hservice hfile options
    · exact Plan.file_withOptions hk hservice hfile c.options
  · rintro service rfl path text hfile
    obtain ⟨text', hfile'⟩ := Plan.exists_file_options hfile options
    obtain ⟨first, hfirst, hrender, -⟩ := Plan.getElem?_files_ofDocument hfile
    obtain ⟨second, hsecond, hrender', -⟩ := Plan.getElem?_files_ofDocument hfile'
    obtain rfl : first = .service service := Option.some.inj (hfirst.symm.trans hk)
    obtain rfl : second = .service service := Option.some.inj (hsecond.symm.trans hk)
    obtain ⟨dict, hdict, htext⟩ := Construct.render_eq_ok.1 hrender
    obtain ⟨dict', hdict', htext'⟩ := Construct.render_eq_ok.1 hrender'
    exact ⟨text', dict, dict', hfile', hdict, hdict', Construct.sharesStructs
      (s := .ofDocument c.dialect .none (doc.recase c.dialect)) hdict hdict' htext htext'⟩

/-- A struct and a service, without options and with all. -/
theorem generate_options_monitor :
    let read : Method :=
      ⟨.simple "read", "", .i64, [⟨1, .simple "from", "", .string, .optional, none⟩], [], false⟩
    let doc : Document :=
      .mk [] ⟨[], [], [⟨.simple "line", .struct, []⟩], [⟨.simple "monitor", none, [read]⟩]⟩
    let c : Config := ⟨.java, ⟨"out"⟩, .none, true⟩
    let other : Config := { c with options := ⟨true, true, true⟩ }
    ∃ line path text text' dict dict', (c.plan doc).files = [line, (path, text)] ∧
      (other.plan doc).files = [line, (path, text')] ∧ SharesStructs .java dict dict' text text' ∧
      text ≠ text' := by
  intro read doc c other
  have hlength : (c.plan doc).files.length = 2 ∧ (other.plan doc).files.length = 2 := by
    decide +kernel
  have hdiffer : (c.plan doc).files[1]? ≠ (other.plan doc).files[1]? := by decide +kernel
  obtain ⟨line, ⟨path, text⟩, hfiles⟩ := List.length_eq_two.1 hlength.1
  obtain ⟨line', file', hfiles'⟩ := List.length_eq_two.1 hlength.2
  obtain ⟨-, -, hsame⟩ := generate_options c ⟨true, true, true⟩ doc
  have hline : (c.plan doc).files[0]? = (other.plan doc).files[0]? := (hsame 0 _ rfl).1 rfl
  have hmonitor : (c.plan doc).files[1]? = some (path, text) := congrArg (·[1]?) hfiles
  obtain ⟨text', dict, dict', hmonitor', -, -, hshares⟩ :=
    (hsame 1 _ rfl).2 _ rfl path text hmonitor
  have hother : (other.plan doc).files[1]? = some (path, text') := hmonitor'
  rw [hmonitor, hother] at hdiffer
  rw [hfiles, hfiles'] at hline
  obtain rfl : line = line' := Option.some.inj hline
  rw [hfiles'] at hother
  obtain rfl : file' = (path, text') := Option.some.inj hother
  refine ⟨line, path, text, text', dict, dict', hfiles, hfiles', hshares, ?_⟩
  rintro rfl
  exact hdiffer rfl

end StubForge
