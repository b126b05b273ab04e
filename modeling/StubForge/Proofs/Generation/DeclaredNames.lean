import StubForge.Proofs.Generation.TitleNames

/-! Names that are recased and then put in title case. In camel case a name that starts with a letter
stays as it is, and its title case is that of the declared name; so the dictionaries of a recased
document have the texts in title case that the declared names give. -/
namespace StubForge
open Dictionary

/-! ## Names -/

namespace Identifier

/-- The last segment has a letter of ASCII first, or after nothing but underscores. -/
abbrev HasLetteredName (id : Identifier) : Prop := Text.isLettered id.name.toList = true

theorem recase_recase (first second : List Char → List Char) (id : Identifier) :
    (id.recase first).recase second = id.recase (second ∘ first) := by
  have hcasing : (fun name => String.ofList (second (String.toList name))) ∘
      (fun name => String.ofList (first (String.toList name))) =
      fun name => String.ofList ((second ∘ first) (String.toList name)) := by
    funext name
    simp only [Function.comp_apply, String.toList_ofList]
  cases id with
  | simple name => exact congrArg simple (congrFun hcasing name)
  | qualified segments =>
    simp only [recase, mapName, mapLast_mapLast, hcasing]

theorem mapLast_congr {f g : String → String} {xs : List String}
    (h : ∀ x ∈ xs.getLast?, f x = g x) : mapLast f xs = mapLast g xs := by
  rcases List.eq_nil_or_concat xs with rfl | ⟨front, last, rfl⟩
  · rfl
  · rw [List.concat_eq_append, mapLast_concat, mapLast_concat, h last (by simp)]

/-- Casings that agree on the last segment agree on the identifier. -/
theorem recase_congr {first second : List Char → List Char} {id : Identifier}
    (h : first id.name.toList = second id.name.toList) : id.recase first = id.recase second := by
  cases id with
  | simple name => exact congrArg (simple ∘ String.ofList) h
  | qualified segments =>
    refine congrArg qualified (mapLast_congr fun x hx => congrArg String.ofList ?_)
    have hname : (qualified segments).name = x := by
      rw [name, segments_qualified, Option.mem_def.1 hx, Option.getD_some]
    rwa [hname] at h

variable {id : Identifier} (h : id.HasLetteredName)
include h

theorem camel_camel : id.camel.camel = id.camel :=
  (recase_recase Text.camelCase Text.camelCase id).trans (recase_congr (Text.camelCase_camelCase h))

theorem title_camel : id.camel.title = id.title :=
  (recase_recase Text.camelCase Text.titleCase id).trans (recase_congr (Text.titleCase_camelCase h))

/-- The name without its scope has the same title case, too. -/
theorem title_leaf_camel : id.camel.leaf.title = id.leaf.title := by
  have hleaf : id.camel.leaf = id.leaf.camel := by
    have hname : id.camel.name = String.ofList (Text.camelCase id.name.toList) :=
      id.name_recase rfl
    rw [leaf, hname]
    rfl
  rw [hleaf]
  exact title_camel h

end Identifier

/-! ## Recased members -/

section
variable (d : Dialect)

theorem Field.titleName_recase {f : Field} (h : f.name.HasLetteredName) :
    (f.recase d).titleName = f.titleName := Identifier.title_camel h

theorem Field.getterName_recase {f : Field} (h : f.name.HasLetteredName) :
    (f.recase d).getterName = f.getterName :=
  congrArg (Identifier.prepend "get") (Identifier.title_camel h)

theorem Method.argsName_recase {m : Method} (h : m.name.HasLetteredName) :
    (m.recase d).argsName = m.argsName :=
  congrArg (Identifier.append · "Args") (Identifier.title_leaf_camel h)

theorem Method.resultName_recase {m : Method} (h : m.name.HasLetteredName) :
    (m.recase d).resultName = m.resultName :=
  congrArg (Identifier.append · "Result") (Identifier.title_leaf_camel h)

theorem Ty.isVoid_recase (t : Ty) : (t.recase d).isVoid = t.isVoid := by cases t <;> rfl

/-- The fields of the result of a recased method are those of the method, recased. -/
theorem Method.resultFields_recase (m : Method) :
    (m.recase d).resultFields = m.resultFields.map (·.recase d) := by
  have hthrown (f : Field) : thrownField (f.recase d) = (thrownField f).recase d := rfl
  -- the field of the value is not declared: its name is fixed, and no casing changes it
  have hsuccess (t : Ty) : successField (t.recase d) = (successField t).recase d := by
    have hname : Text.camelCase "success".toList = "success".toList := by decide +kernel
    simp only [successField, Field.recase, Dialect.fieldCase, Identifier.camel, Identifier.recase,
      Identifier.mapName, hname, String.ofList_toList]
    rfl
  rw [resultFields, resultFields, List.map_append, List.map_map, recase]
  simp only [Ty.isVoid_recase, List.map_map]
  congr 1
  cases m.returns.isVoid with
  | true => rfl
  | false => exact congrArg (fun f => [f]) (hsuccess m.returns)

/-- The structs of a recased method have the fields of those of the method, recased, and where the
method has a letter first their names are the same. -/
theorem Method.forall₂_records_recase (m : Method) :
    List.Forall₂ (fun r cased => (m.name.HasLetteredName → cased.name = r.name) ∧
      cased.fields = r.fields.map (·.recase d)) m.records (m.recase d).records := by
  have hargs := m.resultFields_recase d
  rw [records, records, resultRecord?, resultRecord?]
  refine .cons ⟨argsName_recase d, rfl⟩ ?_
  have honeway : (m.recase d).oneway = m.oneway := rfl
  rw [honeway]
  cases m.oneway with
  | true => exact .nil
  | false => exact .cons ⟨resultName_recase d, hargs⟩ .nil

end

/-! ## Dictionaries -/

/-- The item of a field has the texts in title case that the name of the field gives. -/
def Field.TitledIn (n : Naming) (f : Field) (item : Dictionary) : Prop :=
  f.name.HasLetteredName →
    item.code? "FieldName" = some (n.identifier f.name.title) ∧
    item.code? "getter" = some (n.identifier (f.name.title.prepend "get"))

/-- The item of a method has the texts in title case that the name of the method gives. -/
def Method.TitledIn (n : Naming) (m : Method) (item : Dictionary) : Prop :=
  m.name.HasLetteredName →
    item.code? "FunctionName" = some (n.identifier m.name.title) ∧
    item.code? "args_struct" = some (n.identifier (m.name.leaf.title.append "Args")) ∧
    item.code? "result_struct" = some (n.identifier (m.name.leaf.title.append "Result"))

/-- One item for each of the fields, with its texts in title case. -/
def Dictionary.TitlesFields (n : Naming) (d : Dictionary) (list : String) (fields : List Field) :
    Prop := ∃ items, d.list? list = some items ∧ List.Forall₂ (Field.TitledIn n) fields items

/-- The structs of the methods of a service, each with the method it belongs to. -/
def Service.structs (s : Service) : List (Method × Record) :=
  s.methods.flatMap fun m => m.records.map (m, ·)

/-- The dictionary has the texts in title case that the names of a construct give: those of the fields
of a struct; those of the methods of a service with their arguments and exceptions, and of the
structs that go with them. -/
def Construct.TitledIn (n : Naming) (dict : Dictionary) : Construct → Prop
  | constants _ => True
  | enumeration _ => True
  | record r => dict.TitlesFields n "fields" r.fields
  | service s => ∃ methods records, dict.list? "functions" = some methods ∧
    dict.list? "function_structs" = some records ∧
    List.Forall₂ (fun m method => m.TitledIn n method ∧ method.TitlesFields n "args" m.args ∧
      method.TitlesFields n "throws" m.throws) s.methods methods ∧
    List.Forall₂ (fun (m, r) record =>
      (m.name.HasLetteredName → record.code? "StructName" = some (n.identifier r.name)) ∧
      record.TitlesFields n "fields" r.fields) s.structs records

section
variable {d : Dialect} {n : Naming}

theorem Field.titledIn_of_recase {f : Field} {item : Dictionary}
    (h : (f.recase d).Entries n item) : f.TitledIn n item := by
  intro hname
  have htitle := h.title
  have hgetter := h.getter
  rw [titleName_recase d hname] at htitle
  rw [getterName_recase d hname] at hgetter
  exact ⟨htitle, hgetter⟩

theorem Dictionary.titlesFields_of_recase {dict : Dictionary} {list : String} {fields : List Field}
    {items : List Dictionary} (hlist : dict.list? list = some items)
    (hitems : List.Forall₂ (Field.Entries n) (fields.map (·.recase d)) items) :
    dict.TitlesFields n list fields := by
  rw [List.forall₂_map_left_iff] at hitems
  exact ⟨items, hlist, hitems.imp fun _ _ => Field.titledIn_of_recase⟩

theorem Method.code?_title {m : Method} {dict : Dictionary} (h : m.dictionary n = .ok dict) :
    dict.code? "FunctionName" = some (n.identifier m.name.title) := by
  simp only [dictionary, bind_eq_ok] at h
  obtain ⟨args, -, throws, -, returns, -, arg, -, h⟩ := h
  cases h
  rfl

theorem Method.titledIn_of_recase {m : Method} {dict method : Dictionary}
    (h : (m.recase d).dictionary n = .ok dict) (hmark : Marked dict method) :
    m.TitledIn n method ∧ method.TitlesFields n "args" m.args ∧
      method.TitlesFields n "throws" m.throws := by
  have hentries := entries_of_dictionary h hmark
  obtain ⟨args, hargs, hparameters⟩ := hentries.args
  obtain ⟨throws, hthrows, hexceptions⟩ := hentries.throws
  refine ⟨fun hname => ⟨?_, ?_, ?_⟩, titlesFields_of_recase hargs hparameters,
    titlesFields_of_recase hthrows hexceptions⟩
  · have htitle : (m.recase d).name.title = m.name.title := Identifier.title_camel hname
    rw [hmark.code? (by decide) (by decide), code?_title h, htitle]
  · have hstruct := hentries.argsStruct
    rwa [argsName_recase d hname] at hstruct
  · have hstruct := hentries.resultStruct
    rwa [resultName_recase d hname] at hstruct

theorem Record.titlesFields_of_recase {r cased : Record}
    (hfields : cased.fields = r.fields.map (·.recase d)) {body dict : Dictionary}
    (h : cased.body n = .ok body) (hdict : dict.list? "fields" = body.list? "fields") :
    dict.TitlesFields n "fields" r.fields := by
  obtain ⟨-, fields, hlist, hentries⟩ := body_entries h
  rw [hfields] at hentries
  exact Dictionary.titlesFields_of_recase (hdict.trans hlist) (hentries.imp fun _ _ he => he.1)

/-- The structs of a recased service, each beside the one that it comes from. -/
theorem Service.forall₂_structs_recase (d : Dialect) (s : Service) :
    List.Forall₂ (fun (m, r) cased => (m.name.HasLetteredName → cased.name = r.name) ∧
      cased.fields = r.fields.map (·.recase d)) s.structs
      ((s.recase d).methods.flatMap Method.records) := by
  rw [structs, recase, List.flatMap_map]
  induction s.methods with
  | nil => exact .nil
  | cons m ms ih =>
    rw [List.flatMap_cons, List.flatMap_cons]
    refine List.rel_append ?_ ih
    rw [List.forall₂_map_left_iff]
    exact m.forall₂_records_recase d

end

theorem Construct.titledIn_of_recase {d : Dialect} {s : Setting} {k : Construct}
    {dict : Dictionary} (h : (k.recase d).dictionary s = .ok dict) : k.TitledIn s.naming dict := by
  cases k with
  | constants items => trivial
  | enumeration e => trivial
  | record r =>
    obtain ⟨body, hbody, hdict⟩ := Record.exists_body_of_dictionary h
    exact Record.titlesFields_of_recase rfl hbody hdict
  | service v =>
    obtain ⟨methods, records, hfunctions, hstructs, hmethods, hrecords⟩ :=
      Service.exists_dictionaries h
    refine ⟨methods, records, hfunctions, hstructs, ?_, ?_⟩
    · rw [Service.recase, List.forall₂_map_left_iff] at hmethods
      refine hmethods.imp ?_
      rintro m method ⟨d, hd, hmark⟩
      exact Method.titledIn_of_recase hd hmark
    · refine forall₂_join (v.forall₂_structs_recase d).flip hrecords ?_
      rintro cased ⟨m, r⟩ record ⟨hname, hfields⟩ ⟨body, hbody, hmark⟩
      refine ⟨fun hletter => ?_, Record.titlesFields_of_recase hfields hbody
        (hmark.list? (by decide) (by decide))⟩
      rw [hmark.code? (by decide) (by decide), (Record.body_entries hbody).1, hname hletter]

/-- Camel case changes a name that starts with a letter once, and never its title case. So whatever a
dictionary of a recased document has in title case is what the declared names give. -/
theorem Document.declared_titles :
    (∀ id : Identifier, id.HasLetteredName →
      id.camel.camel = id.camel ∧ id.camel.title = id.title) ∧
    ∀ (d : Dialect) (doc : Document) (i : Nat) (k : Construct),
      doc.definitions.constructs[i]? = some k →
      ∃ cased, (doc.recase d).definitions.constructs[i]? = some cased ∧
        ∀ s dict, cased.dictionary s = .ok dict → k.TitledIn s.naming dict := by
  refine ⟨fun id h => ⟨Identifier.camel_camel h, Identifier.title_camel h⟩, fun d doc i k hk => ?_⟩
  refine ⟨k.recase d, ?_, fun s dict hdict => Construct.titledIn_of_recase hdict⟩
  rw [constructs_recase, List.getElem?_map, hk, Option.map_some]

/-- A method and an argument in capitals and small letters, with underscores between them. -/
theorem Document.declared_titles_find :
    let m : Method := ⟨.simple "FIND_all", "FIND_all", .void,
      [⟨1, .simple "_page_NO", "_page_NO", .i32, .unmarked, none⟩], [], true⟩
    let doc : Document := .mk [] ⟨[], [], [], [⟨.simple "store", none, [m]⟩]⟩
    let s := Setting.ofDocument .java .none (doc.recase .java)
    ∃ cased dict method arg, (doc.recase .java).definitions.constructs[0]? = some cased ∧
      cased.dictionary s = .ok dict ∧ dict.list? "functions" = some [method] ∧
      method.code? "FunctionName" = some "FindAll" ∧
      method.code? "args_struct" = some "FindAllArgs" ∧
      method.list? "args" = some [arg] ∧ arg.code? "FieldName" = some "_PageNo" ∧
      arg.code? "getter" = some "get_PageNo" := by
  intro m doc s
  let v : Service := ⟨.simple "store", none, [m]⟩
  obtain ⟨cased, hcased, htitles⟩ := declared_titles.2 .java doc 0 (.service v) rfl
  have hrecased : cased = (Construct.service v).recase .java := by
    rw [constructs_recase] at hcased
    exact (Option.some.inj hcased).symm
  have hnone : fault? (((Construct.service v).recase .java).dictionary s) = none := by
    decide +kernel
  obtain ⟨dict, hdict⟩ := fault?_eq_none.1 hnone
  rw [← hrecased] at hdict
  obtain ⟨methods, records, hfunctions, -, hmethods, -⟩ := htitles s dict hdict
  obtain ⟨method, rfl, hmethod, ⟨args, hargs, hitems⟩, -⟩ :=
    forall₂_singleton_left_iff.1 hmethods
  obtain ⟨arg, rfl, harg⟩ := forall₂_singleton_left_iff.1 hitems
  have hletters : m.name.HasLetteredName := by decide
  obtain ⟨hname, hstruct, -⟩ := hmethod hletters
  obtain ⟨htitle, hgetter⟩ := harg (by decide)
  have hnames : s.naming.identifier m.name.title = "FindAll" ∧
      s.naming.identifier (m.name.leaf.title.append "Args") = "FindAllArgs" := by decide +kernel
  have hargument : s.naming.identifier (Identifier.simple "_page_NO").title = "_PageNo" ∧
      s.naming.identifier ((Identifier.simple "_page_NO").title.prepend "get") = "get_PageNo" := by
    decide +kernel
  rw [hnames.1] at hname
  rw [hnames.2] at hstruct
  rw [hargument.1] at htitle
  rw [hargument.2] at hgetter
  exact ⟨cased, dict, method, arg, hcased, hdict, hfunctions, hname, hstruct, hargs, htitle, hgetter⟩

end StubForge
