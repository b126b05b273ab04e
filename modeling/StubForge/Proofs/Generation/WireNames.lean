import Mathlib.Logic.Function.Iterate
import StubForge.Proofs.Generation.Recasing
import StubForge.Proofs.Stub.Signatures

/-! Names on the wire. However often a document is recased, what goes over the wire is as it was
declared, and the dictionaries have it as a literal. -/
namespace StubForge
open Dictionary

/-! ## Documents without their names -/

/-- The place of a name that casing may change. -/
def Identifier.blank : Identifier := .simple ""

namespace Ty

def unnamed : Ty → Ty
  | enum _ => enum .blank
  | struct _ => struct .blank
  | reference _ => reference .blank
  | list item => list item.unnamed
  | set item => set item.unnamed
  | map key value => map key.unnamed value.unnamed
  | t => t

theorem unnamed_recase (d : Dialect) (t : Ty) : (t.recase d).unnamed = t.unnamed := by
  induction t with
  | list item ih => simp [recase, unnamed, ih]
  | set item ih => simp [recase, unnamed, ih]
  | map key value ihk ihv => simp [recase, unnamed, ihk, ihv]
  | _ => rfl

end Ty

namespace Literal

mutual

def unnamed : Literal → Literal
  | .enum _ _ => .enum .blank .blank
  | .list items => .list (unnamedAll items)
  | .set items => .set (unnamedAll items)
  | .map entries => .map (unnamedEntries entries)
  | v => v

def unnamedAll : List Literal → List Literal
  | [] => []
  | v :: r => unnamed v :: unnamedAll r

def unnamedEntries : List (Literal × Literal) → List (Literal × Literal)
  | [] => []
  | (k, v) :: r => (unnamed k, unnamed v) :: unnamedEntries r

end

mutual

theorem unnamed_recase (d : Dialect) : ∀ v : Literal, (recase d v).unnamed = unnamed v
  | .null | .string _ | .double _ | .int _ | .bool _ | .enum _ _ | .id _ => rfl
  | .list items => by simp [recase, unnamed, unnamedAll_recaseAll d items]
  | .set items => by simp [recase, unnamed, unnamedAll_recaseAll d items]
  | .map entries => by simp [recase, unnamed, unnamedEntries_recaseEntries d entries]

theorem unnamedAll_recaseAll (d : Dialect) :
    ∀ vs : List Literal, unnamedAll (recaseAll d vs) = unnamedAll vs
  | [] => rfl
  | v :: r => by simp [recaseAll, unnamedAll, unnamed_recase d v, unnamedAll_recaseAll d r]

theorem unnamedEntries_recaseEntries (d : Dialect) :
    ∀ es : List (Literal × Literal), unnamedEntries (recaseEntries d es) = unnamedEntries es
  | [] => rfl
  | (k, v) :: r => by
    simp [recaseEntries, unnamedEntries, unnamed_recase d k, unnamed_recase d v,
      unnamedEntries_recaseEntries d r]

end

end Literal

def Field.unnamed (f : Field) : Field where
  id := f.id
  name := .blank
  declared := f.wireName
  ty := f.ty.unnamed
  requiredness := f.requiredness
  initial := f.initial.map (·.unnamed)

/-- Constants keep their names. -/
def Constant.unnamed (c : Constant) : Constant := ⟨c.name, c.ty.unnamed, c.value.unnamed⟩

def Enumerator.unnamed (m : Enumerator) : Enumerator := ⟨.blank, m.wireName, m.value⟩

def Enumeration.unnamed (e : Enumeration) : Enumeration := ⟨.blank, e.members.map (·.unnamed)⟩

def Record.unnamed (r : Record) : Record := ⟨.blank, r.kind, r.fields.map (·.unnamed)⟩

def Method.unnamed (m : Method) : Method where
  name := .blank
  declared := m.wireName
  returns := m.returns.unnamed
  args := m.args.map (·.unnamed)
  throws := m.throws.map (·.unnamed)
  oneway := m.oneway

def Service.unnamed (s : Service) : Service where
  name := .blank
  parent := s.parent.map fun p => ⟨.blank, p.scope⟩
  methods := s.methods.map (·.unnamed)

def Definitions.unnamed (ds : Definitions) : Definitions where
  constants := ds.constants.map (·.unnamed)
  enumerations := ds.enumerations.map (·.unnamed)
  records := ds.records.map (·.unnamed)
  services := ds.services.map (·.unnamed)

namespace Document

mutual

/-- All of a document, and of the documents it includes, but the names that casing may change: the
order and number of what is declared, each with the name that it has on the wire. -/
def unnamed : Document → Document
  | .mk headers definitions => .mk (unnamedHeaders headers) definitions.unnamed

def unnamedHeaders : List (Header Document) → List (Header Document)
  | [] => []
  | h :: r => unnamedHeader h :: unnamedHeaders r

def unnamedHeader : Header Document → Header Document
  | .inclusion localName document => .inclusion localName (unnamed document)
  | .package scope id => .package scope id

end

end Document

/-! ## Casing -/

theorem Identifier.name_recase {casing : List Char → List Char} (hnil : casing [] = [])
    (id : Identifier) :
    (id.recase casing).name = String.ofList (casing id.name.toList) := by
  rw [recase, name, segments_mapName, getLast?_mapLast, name]
  cases id.segments.getLast? with
  | none => rw [Option.map_none, Option.getD_none, String.toList_empty, hnil]
  | some last => rfl

/-- A name that is empty stays so, and the name on the wire with it. -/
theorem declaredName_recase {casing : List Char → List Char} (hnil : casing [] = [])
    (declared : String) (id : Identifier) :
    declaredName (declaredName declared id) (id.recase casing) = declaredName declared id := by
  by_cases hempty : declaredName declared id = ""
  · have hname : id.name = "" := by
      by_cases hdeclared : declared = ""
      · simpa [declaredName, hdeclared] using hempty
      · simp [declaredName, hdeclared] at hempty
    rw [hempty, declaredName, if_pos rfl, id.name_recase hnil, hname, String.toList_empty, hnil]
  · rw [declaredName, if_neg hempty]

theorem Field.wireName_recase (d : Dialect) (f : Field) : (f.recase d).wireName = f.wireName :=
  declaredName_recase rfl f.declared f.name

theorem Method.wireName_recase (d : Dialect) (m : Method) : (m.recase d).wireName = m.wireName :=
  declaredName_recase rfl m.declared m.name

theorem Enumerator.wireName_recase (d : Dialect) (m : Enumerator) :
    (m.recase d).wireName = m.wireName := by
  cases d with
  | scala =>
    have hnil : Text.titleCase [] = [] := rfl
    exact declaredName_recase hnil m.declared m.name
  | java =>
    have hnil : Text.shoutCase [] = [] := rfl
    exact declaredName_recase hnil m.declared m.name

theorem Field.unnamed_recase (d : Dialect) (f : Field) : (f.recase d).unnamed = f.unnamed := by
  have hinitial : f.initial.map (Literal.unnamed ∘ Literal.recase d) =
      f.initial.map Literal.unnamed :=
    congrArg (f.initial.map ·) (funext (Literal.unnamed_recase d))
  rw [unnamed, wireName_recase, unnamed]
  simp only [recase, Ty.unnamed_recase, Option.map_map, hinitial]

theorem Definitions.unnamed_recase (d : Dialect) (ds : Definitions) :
    (ds.recase d).unnamed = ds.unnamed := by
  have hconstant (c : Constant) : (c.recase d).unnamed = c.unnamed := by
    simp [Constant.unnamed, Constant.recase, Ty.unnamed_recase, Literal.unnamed_recase,
      Dialect.constantCase]
  have henumerator (m : Enumerator) : (m.recase d).unnamed = m.unnamed := by
    rw [Enumerator.unnamed, m.wireName_recase]
    rfl
  have hmethod (m : Method) : (m.recase d).unnamed = m.unnamed := by
    rw [Method.unnamed, m.wireName_recase, Method.unnamed]
    simp [Method.recase, Ty.unnamed_recase, Field.unnamed_recase, Function.comp_def]
  simp [unnamed, recase, Enumeration.unnamed, Enumeration.recase, Record.unnamed, Record.recase,
    Service.unnamed, Service.recase, Parent.recase, hconstant, henumerator, hmethod,
    Field.unnamed_recase, Function.comp_def]

namespace Document

mutual

theorem unnamed_recase (d : Dialect) : ∀ doc : Document, (recase d doc).unnamed = unnamed doc
  | .mk headers definitions => by
    rw [recase, unnamed, unnamed, unnamedHeaders_recaseHeaders d headers,
      Definitions.unnamed_recase]

theorem unnamedHeaders_recaseHeaders (d : Dialect) : ∀ headers : List (Header Document),
    unnamedHeaders (recaseHeaders d headers) = unnamedHeaders headers
  | [] => rfl
  | h :: r => by
    rw [recaseHeaders, unnamedHeaders, unnamedHeaders, unnamedHeader_recaseHeader d h,
      unnamedHeaders_recaseHeaders d r]

theorem unnamedHeader_recaseHeader (d : Dialect) : ∀ header : Header Document,
    unnamedHeader (recaseHeader d header) = unnamedHeader header
  | .inclusion localName document => by
    rw [recaseHeader, unnamedHeader, unnamedHeader, unnamed_recase d document]
  | .package scope id => rfl

end

theorem unnamed_iterate_recase (d : Dialect) (n : Nat) (doc : Document) :
    ((recase d)^[n] doc).unnamed = doc.unnamed := by
  induction n with
  | zero => rfl
  | succ n ih => rw [Function.iterate_succ_apply', unnamed_recase, ih]

end Document

/-! ## Dictionaries -/

/-- The texts that the items of a list have under a key. -/
def Dictionary.codes? (d : Dictionary) (list key : String) : Option (List String) :=
  (d.list? list).bind fun items => items.mapM (·.code? key)

theorem Dictionary.codes?_eq_some {α : Type} {d : Dictionary} {list key : String}
    {items : List Dictionary} (hlist : d.list? list = some items) {xs : List α} {f : α → String}
    (h : List.Forall₂ (fun x item => item.code? key = some (f x)) xs items) :
    d.codes? list key = some (xs.map f) := by
  rw [codes?, hlist, Option.bind_some]
  clear hlist
  induction h with
  | nil => rfl
  | cons hitem _ ih => rw [List.mapM_cons, hitem, ih]; rfl

/-- The dictionary of a struct has the literal of the name on the wire of each field. -/
def Record.FieldsOnWire (fields : List Field) (dict : Dictionary) : Prop :=
  dict.codes? "fields" "field_name_for_wire" = some (fields.map fun f => Text.quote f.wireName)

/-- The dictionary has the names on the wire of all that the construct declares, each as a literal
and in its place. The arguments of a method are in a struct of their own. -/
def Construct.NamesOnWire (dict : Dictionary) : Construct → Prop
  | constants _ => True
  | enumeration e =>
    dict.codes? "values" "original_name" = some (e.members.map fun m => Text.quote m.wireName)
  | record r => Record.FieldsOnWire r.fields dict
  | service s =>
    dict.codes? "functions" "name_for_wire" = some (s.methods.map fun m => Text.quote m.wireName) ∧
    ∃ records, dict.list? "function_structs" = some records ∧ ∀ i m, s.methods[i]? = some m →
      ∃ r, records[i + (s.methods.take i).countP (!·.oneway)]? = some r ∧
        Record.FieldsOnWire m.args r

/-- The texts that the items of a struct have under a key, where each goes with its field. -/
theorem Record.codes?_fields {n : Naming} {r : Record} {body dict : Dictionary}
    (h : r.body n = .ok body) (hdict : dict.list? "fields" = body.list? "fields") {key : String}
    {text : Field → String} (htext : ∀ f item, f.HasItem n item → item.code? key = some (text f)) :
    dict.codes? "fields" key = some (r.fields.map text) := by
  obtain ⟨-, -, items, hlist, hitems⟩ := body_items h
  exact codes?_eq_some (hdict.trans hlist) (hitems.imp htext)

theorem Record.fieldsOnWire {n : Naming} {r : Record} {body dict : Dictionary}
    (h : r.body n = .ok body) (hdict : dict.list? "fields" = body.list? "fields") :
    FieldsOnWire r.fields dict :=
  codes?_fields h hdict fun _ _ hitem => hitem.declared.wireName

/-- The texts that the members of an enum have under a key. -/
theorem Enumeration.codes?_members (n : Naming) (package : Identifier) (e : Enumeration)
    {key : String} (hkey : key ≠ "first" ∧ key ≠ "last") {text : Enumerator → String}
    (htext : ∀ m : Enumerator, (m.dictionary n).code? key = some (text m)) :
    (e.dictionary n package).codes? "values" key = some (e.members.map text) := by
  have hmembers : List.Forall₂ (fun (m : Enumerator) d => d.code? key = some (text m)) e.members
      (e.members.map (·.dictionary n)) := by
    rw [List.forall₂_map_right_iff]
    exact List.forall₂_same.2 fun m _ => htext m
  refine codes?_eq_some rfl ((forall₂_markEnds hmembers).imp ?_)
  rintro m item ⟨d, hd, hmark⟩
  rw [hmark.code? hkey.1 hkey.2, hd]

theorem Enumeration.namesOnWire (n : Naming) (package : Identifier) (e : Enumeration) :
    (Construct.enumeration e).NamesOnWire (e.dictionary n package) :=
  e.codes?_members n package (by decide) fun _ => rfl

theorem Method.code?_wireName {n : Naming} {m : Method} {d : Dictionary}
    (h : m.dictionary n = .ok d) : d.code? "name_for_wire" = some (Text.quote m.wireName) := by
  simp only [dictionary, bind_eq_ok] at h
  obtain ⟨args, -, throws, -, returns, -, arg, -, h⟩ := h
  cases h
  rfl

theorem Service.namesOnWire {n : Naming} {package : Identifier} {inclusions : List Inclusion}
    {options : ServiceOptions} {s : Service} {dict : Dictionary}
    (h : s.dictionary n package inclusions options = .ok dict) :
    (Construct.service s).NamesOnWire dict := by
  obtain ⟨methods, records, hfunctions, hstructs, hmethods, hrecords⟩ := exists_dictionaries h
  refine ⟨codes?_eq_some hfunctions (hmethods.imp ?_), records, hstructs, ?_⟩
  · rintro m item ⟨d, hd, hmark⟩
    rw [hmark.code? (by decide) (by decide), Method.code?_wireName hd]
  · intro i m hi
    have hplace := getElem?_flatMap_records hi 0
    obtain ⟨r, hr, body, hbody, hmark⟩ := exists_getElem?_of_forall₂ hrecords hplace
    exact ⟨r, hr, Record.fieldsOnWire hbody (hmark.list? (by decide) (by decide))⟩

theorem Construct.namesOnWire {s : Setting} {k : Construct} {dict : Dictionary}
    (h : k.dictionary s = .ok dict) : k.NamesOnWire dict := by
  cases k with
  | constants items => trivial
  | enumeration e =>
    cases h
    exact e.namesOnWire s.naming s.package
  | record r =>
    obtain ⟨body, hbody, hdict⟩ := Record.exists_body_of_dictionary h
    exact Record.fieldsOnWire hbody hdict
  | service v => exact Service.namesOnWire h

/-! ## Constructs without their names -/

theorem wireName_blank {declared : String} {name : Identifier} :
    declaredName (declaredName declared name) .blank = declaredName declared name := by
  rw [declaredName]
  split
  · rename_i hempty
    exact hempty.symm
  · rfl

def Construct.unnamed : Construct → Construct
  | constants items => constants (items.map (·.unnamed))
  | enumeration e => enumeration e.unnamed
  | record r => record r.unnamed
  | service s => service s.unnamed

theorem Definitions.constructs_unnamed (ds : Definitions) :
    ds.unnamed.constructs = ds.constructs.map (·.unnamed) := by
  cases h : ds.constants <;>
    simp [constructs, unnamed, Construct.unnamed, h, Function.comp_def]

theorem Document.definitions_unnamed (doc : Document) :
    doc.unnamed.definitions = doc.definitions.unnamed := by cases doc; rfl

theorem Record.fieldsOnWire_unnamed {fields : List Field} {dict : Dictionary} :
    FieldsOnWire (fields.map (·.unnamed)) dict ↔ FieldsOnWire fields dict := by
  have hwire (f : Field) : f.unnamed.wireName = f.wireName := wireName_blank
  simp only [FieldsOnWire, List.map_map, Function.comp_def, hwire]

/-- The names on the wire are among what a construct is without its names. -/
theorem Construct.namesOnWire_unnamed {k : Construct} {dict : Dictionary} :
    k.unnamed.NamesOnWire dict ↔ k.NamesOnWire dict := by
  have henumerator (m : Enumerator) : m.unnamed.wireName = m.wireName := wireName_blank
  have hmethod (m : Method) : m.unnamed.wireName = m.wireName := wireName_blank
  have hargs (m : Method) : m.unnamed.args = m.args.map (·.unnamed) := rfl
  have honeway (m : Method) : m.unnamed.oneway = m.oneway := rfl
  cases k with
  | constants items => rfl
  | enumeration e =>
    simp only [unnamed, NamesOnWire, Enumeration.unnamed, List.map_map, Function.comp_def,
      henumerator]
  | record r => exact Record.fieldsOnWire_unnamed
  | service s =>
    simp only [unnamed, NamesOnWire, Service.unnamed, List.map_map, Function.comp_def, hmethod,
      List.getElem?_map, ← List.map_take, List.countP_map, Option.map_eq_some_iff,
      forall_exists_index, and_imp, forall_apply_eq_imp_iff₂, hargs, honeway,
      Record.fieldsOnWire_unnamed]

/-- However often a document is recased, it keeps all but the names that casing changes: what it and
the documents it includes declare, in that order and with those names on the wire. The dictionaries
of what comes out have these names, those of the document as it was, as literals. -/
theorem Document.wire_names_recased (d : Dialect) (n : Nat) (doc : Document) :
    ((recase d)^[n] doc).unnamed = doc.unnamed ∧
      List.Forall₂
        (fun declared recased => ∀ s dict, recased.dictionary s = .ok dict →
          Construct.NamesOnWire dict declared)
        doc.definitions.constructs ((recase d)^[n] doc).definitions.constructs := by
  have hdocument := unnamed_iterate_recase d n doc
  refine ⟨hdocument, ?_⟩
  have hconstructs : doc.definitions.constructs.map Construct.unnamed =
      ((recase d)^[n] doc).definitions.constructs.map Construct.unnamed := by
    rw [← Definitions.constructs_unnamed, ← definitions_unnamed, ← hdocument, definitions_unnamed,
      Definitions.constructs_unnamed]
  rw [← List.forall₂_eq_eq_eq, List.forall₂_map_left_iff, List.forall₂_map_right_iff] at hconstructs
  refine hconstructs.imp fun declared recased hsame s dict hdict => ?_
  rw [← Construct.namesOnWire_unnamed, hsame, Construct.namesOnWire_unnamed]
  exact Construct.namesOnWire hdict

/-- A struct that is recased twice. -/
theorem Document.wire_names_recased_result :
    let doc : Document := .mk [] ⟨[], [], [⟨.simple "search_result", .struct,
      [⟨1, .simple "page_no", "", .i32, .unmarked, none⟩]⟩], []⟩
    let s := Setting.ofDocument .java .none doc
    ∃ r dict, ((recase .java)^[2] doc).definitions.constructs = [.record r] ∧
      r.name = .simple "SearchResult" ∧ (Construct.record r).dictionary s = .ok dict ∧
      dict.codes? "fields" "field_name_for_wire" = some ["\"page_no\""] := by
  intro doc s
  let r : Record := ⟨.simple "SearchResult", .struct,
    [⟨1, .simple "pageNo", "page_no", .i32, .unmarked, none⟩]⟩
  have hconstructs : ((recase .java)^[2] doc).definitions.constructs = [.record r] := by
    decide +kernel
  have hnone : fault? ((Construct.record r).dictionary s) = none := by decide +kernel
  obtain ⟨dict, hdict⟩ := fault?_eq_none.1 hnone
  obtain ⟨-, hall⟩ := wire_names_recased .java 2 doc
  rw [hconstructs] at hall
  have hwire := (List.forall₂_cons.1 hall).1 s dict hdict
  exact ⟨r, dict, hconstructs, rfl, hdict, hwire.trans (by decide +kernel)⟩

end StubForge
