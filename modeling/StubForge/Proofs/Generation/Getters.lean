import StubForge.Proofs.Generation.Contents
import StubForge.Proofs.Generation.Packages
import StubForge.Proofs.Generation.TitleNames

/-! Texts that are put together outside of the dictionaries. A template writes `get` before the name
of a field, and a file is called by the name that it declares. Both get what a dictionary has,
because a name in title case is never escaped. -/
namespace StubForge
open Dictionary

/-- The items of a list, each with the plain name of its field in title case as it is, and with a
getter that is called by it. -/
def Dictionary.SpellsGetters (d : Dictionary) (list : String) (fields : List Field) : Prop :=
  ∃ items, d.list? list = some items ∧ List.Forall₂ (fun f item => f.name.IsSimple →
    item.code? "FieldName" = some f.titleName.name ∧
      item.code? "getter" = some ("get" ++ f.titleName.name)) fields items

/-- The fields of a struct; and for a service the arguments and exceptions of its methods, with the
fields of the structs that go with them. -/
def Construct.SpellsGetters (dict : Dictionary) : Construct → Prop
  | constants _ => True
  | enumeration _ => True
  | record r => dict.SpellsGetters "fields" r.fields
  | service s => ∃ methods records, dict.list? "functions" = some methods ∧
    dict.list? "function_structs" = some records ∧
    List.Forall₂ (fun m method => method.SpellsGetters "args" m.args ∧
      method.SpellsGetters "throws" m.throws) s.methods methods ∧
    List.Forall₂ (fun r record => record.SpellsGetters "fields" r.fields)
      (s.methods.flatMap Method.records) records

/-! ## Getters -/

theorem Dictionary.spellsGetters {n : Naming} {d : Dictionary} {list : String}
    {fields : List Field} {items : List Dictionary} (hlist : d.list? list = some items)
    (hitems : List.Forall₂ (Field.Entries n) fields items) : d.SpellsGetters list fields := by
  refine ⟨items, hlist, hitems.imp fun f item hf hsimple => ⟨?_, ?_⟩⟩
  · rw [hf.title, Field.titleName, Naming.identifier_title hsimple]
  · rw [hf.getter, Field.getterName, Naming.identifier_getter hsimple, Field.titleName]

theorem Record.spellsGetters {n : Naming} {r : Record} {body dict : Dictionary}
    (h : r.body n = .ok body) (hdict : dict.list? "fields" = body.list? "fields") :
    dict.SpellsGetters "fields" r.fields := by
  obtain ⟨-, fields, hlist, hentries⟩ := body_entries h
  exact Dictionary.spellsGetters (hdict.trans hlist) (hentries.imp fun f e he => he.1)

theorem Construct.spellsGetters {s : Setting} {k : Construct} {dict : Dictionary}
    (h : k.dictionary s = .ok dict) : k.SpellsGetters dict := by
  cases k with
  | constants items => trivial
  | enumeration e => trivial
  | record r =>
    obtain ⟨body, hbody, hdict⟩ := Record.exists_body_of_dictionary h
    exact Record.spellsGetters hbody hdict
  | service v =>
    obtain ⟨methods, records, hfunctions, hstructs, hmethods, hrecords⟩ := Service.exists_items h
    refine ⟨methods, records, hfunctions, hstructs, hmethods.imp ?_, hrecords.imp ?_⟩
    · intro m method hm
      obtain ⟨args, hargs, hparameters⟩ := hm.args
      obtain ⟨throws, hthrows, hexceptions⟩ := hm.throws
      exact ⟨Dictionary.spellsGetters hargs hparameters,
        Dictionary.spellsGetters hthrows hexceptions⟩
    · rintro r record ⟨body, hbody, hmark⟩
      exact Record.spellsGetters hbody (hmark.list? (by decide) (by decide))

/-! ## Names of files -/

theorem Construct.exists_simple_of_declared? {d : Dialect} {k : Construct} {key name : String}
    (h : (k.recase d).declared? = some (key, .simple name)) :
    ∃ raw, k.declared? = some (key, .simple raw) ∧ d.typeCase (.simple raw) = .simple name := by
  rw [declared?_recase] at h
  obtain ⟨⟨key, id⟩, hdeclared, heq⟩ := Option.map_eq_some_iff.1 h
  cases id with
  | simple raw =>
    cases heq
    exact ⟨raw, hdeclared, rfl⟩
  | qualified segments => cases heq

/-- A plain name that a recased document declares is written as it is. -/
theorem Construct.code?_declared {s : Setting} {k : Construct} {key name : String}
    (h : (k.recase s.naming.dialect).declared? = some (key, .simple name)) {dict : Dictionary}
    (hdict : (k.recase s.naming.dialect).dictionary s = .ok dict) : dict.code? key = some name := by
  obtain ⟨raw, hraw, hname⟩ := exists_simple_of_declared? h
  rw [(codes_of_declared h hdict).2, ← hname, identifier_eq_stem hraw, stem_eq_name h,
    Identifier.name_simple]

/-- Whatever a name is, it is no keyword in title case. So the getter of a field, an argument or an
exception with a plain name is `get` before the name that templates have for it; and the name that a
document in the casing of the dialect declares for an enum, a struct or a service is also the text
of its declaration, and that of its file before the extension. -/
theorem Dialect.title_names (d : Dialect) :
    (∀ name, d.isKeyword (Identifier.simple name).title.name = false) ∧
    (∀ (s : Setting) (k : Construct) (dict : Dictionary), s.naming.dialect = d →
      k.dictionary s = .ok dict → k.SpellsGetters dict) ∧
    ∀ (doc : Document) (options : ServiceOptions) (i : Nat) (k : Construct) (key name : String),
      (doc.recase d).definitions.constructs[i]? = some k → k.declared? = some (key, .simple name) →
      (∀ dict, k.dictionary (.ofDocument d options (doc.recase d)) = .ok dict →
        dict.code? key = some name) ∧
      ∀ (root : Path) (file : Path × String),
        (Plan.ofDocument d root options doc).files[i]? = some file →
        file.1 = (Plan.ofDocument d root options doc).directory.join (name ++ d.fileExtension) := by
  refine ⟨fun name => d.isKeyword_typeCase (.simple name), fun s k dict _ => k.spellsGetters, ?_⟩
  intro doc options i k key name hk hdeclared
  rw [Document.constructs_recase, List.getElem?_map] at hk
  obtain ⟨raw, hraw, rfl⟩ := Option.map_eq_some_iff.1 hk
  refine ⟨fun dict hdict => ?_, fun root file hfile => ?_⟩
  · exact Construct.code?_declared (s := .ofDocument d options (doc.recase d)) hdeclared hdict
  · obtain ⟨k', hk', -, hpath⟩ := Plan.getElem?_files_ofDocument hfile
    obtain rfl : raw = k' := Option.some.inj (hraw.symm.trans hk')
    rw [hpath, Construct.stem_eq_name hdeclared, Identifier.name_simple]

/-- A service with a keyword for a name, a method that throws, and an exception called by another
keyword. -/
theorem Dialect.title_names_switch :
    let doc : Document := .mk [] ⟨[], [], [], [⟨.simple "switch", none, [⟨.simple "turn", "turn",
      .void, [], [⟨1, .simple "default", "default", .struct (.simple "Gone"), .unmarked, none⟩],
      false⟩]⟩]⟩
    let s := Setting.ofDocument .java .none (doc.recase .java)
    ∃ k dict method thrown, (doc.recase .java).definitions.constructs = [k] ∧
      k.dictionary s = .ok dict ∧ dict.code? "ServiceName" = some "Switch" ∧
      dict.list? "functions" = some [method] ∧ method.list? "throws" = some [thrown] ∧
      thrown.code? "FieldName" = some "Default" ∧ thrown.code? "getter" = some "getDefault" := by
  intro doc s
  let v : Service := ⟨.simple "Switch", none, [⟨.simple "turn", "turn", .void, [],
    [⟨1, .simple "default", "default", .struct (.simple "Gone"), .unmarked, none⟩], false⟩]⟩
  have hconstructs : (doc.recase .java).definitions.constructs = [.service v] := by decide +kernel
  have hnone : fault? ((Construct.service v).dictionary s) = none := by decide +kernel
  obtain ⟨dict, hdict⟩ := fault?_eq_none.1 hnone
  have hplace : (doc.recase .java).definitions.constructs[0]? = some (.service v) := by
    rw [hconstructs]
    rfl
  obtain ⟨-, hgetters, hnames⟩ := title_names .java
  obtain ⟨hname, -⟩ := hnames doc .none 0 _ "ServiceName" "Switch" hplace rfl
  obtain ⟨methods, records, hfunctions, -, hmethods, -⟩ := hgetters s _ dict rfl hdict
  obtain ⟨method, rfl, -, throws, hthrows, hexceptions⟩ := forall₂_singleton_left_iff.1 hmethods
  obtain ⟨thrown, rfl, hthrown⟩ := forall₂_singleton_left_iff.1 hexceptions
  have htitle : (Identifier.simple "default").title.name = "Default" := by decide +kernel
  have hgetter := hthrown ⟨_, rfl⟩
  rw [Field.titleName, htitle] at hgetter
  exact ⟨_, dict, method, thrown, hconstructs, hdict, hname dict hdict, hfunctions, hthrows,
    hgetter.1, hgetter.2⟩

end StubForge
