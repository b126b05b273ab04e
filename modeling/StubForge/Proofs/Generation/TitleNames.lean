import Mathlib.Data.List.Nodup
import StubForge.Proofs.Generation.Declarations
import StubForge.Proofs.Text.Camel

/-! Names in title case. The names of methods and fields stay apart in it, whatever prefix or suffix
they get, because they are in camel case before. -/
namespace StubForge
open Dictionary

/-! ## Names -/

/-- A letter of ASCII comes first, or after nothing but underscores. -/
def Text.isLettered (t : List Char) : Bool := (t.dropWhile (· == '_')).head?.any Char.isAlpha

namespace Identifier

def isLettered : Identifier → Bool
  | simple name => Text.isLettered name.toList
  | qualified _ => false

def IsSimple (id : Identifier) : Prop := ∃ name, id = simple name

/-- A plain name in camel case. -/
def IsCamel (id : Identifier) : Prop := ∃ name, id = simple name ∧ Text.IsCamel name.toList

theorem isCamel_camel {id : Identifier} (h : id.isLettered = true) : id.camel.IsCamel := by
  cases id with
  | qualified segments => cases h
  | simple name =>
    refine ⟨_, rfl, ?_⟩
    rw [String.toList_ofList]
    exact Text.isCamel_camelCase h

theorem IsCamel.isSimple {id : Identifier} (h : id.IsCamel) : id.IsSimple :=
  h.imp fun _ hname => hname.1

theorem IsCamel.leaf {id : Identifier} (h : id.IsCamel) : id.leaf = id := by
  obtain ⟨name, rfl⟩ := h.isSimple
  rfl

theorem IsCamel.title_eq_iff {a b : Identifier} (ha : a.IsCamel) (hb : b.IsCamel) :
    a.title.name = b.title.name ↔ a = b := by
  obtain ⟨name, rfl, ha⟩ := ha
  obtain ⟨name', rfl, hb⟩ := hb
  constructor
  · intro h
    have hcase := String.ofList_injective h
    rw [String.toList_inj.1 (ha.titleCase_inj hb hcase)]
  · intro h
    rw [h]

end Identifier

theorem Naming.identifier_title {n : Naming} {id : Identifier} (h : id.IsSimple) :
    n.identifier id.title = id.title.name := by
  obtain ⟨name, rfl⟩ := h
  exact n.namedType_typeCase name

theorem Naming.identifier_getter {n : Naming} {id : Identifier} (h : id.IsSimple) :
    n.identifier (id.title.prepend "get") = "get" ++ id.title.name := by
  have hget : ∀ k ∈ n.dialect.keywords, ¬ "get".toList <+: k.toList := by
    cases n.dialect <;> decide +kernel
  obtain ⟨name, rfl⟩ := h
  exact identifier_prepend hget _

/-- The names of fields, and of methods with their arguments and exceptions. -/
def Construct.memberNames : Construct → List Identifier
  | constants _ => []
  | enumeration _ => []
  | record r => r.fields.map (·.name)
  | service s => s.methods.flatMap fun m => m.name :: (m.args ++ m.throws).map (·.name)

/-- Every field and method has a plain name that starts with a letter of ASCII, underscores apart. -/
def Document.HasLetteredMembers (doc : Document) : Prop :=
  ∀ k ∈ doc.definitions.constructs, ∀ id ∈ k.memberNames, id.isLettered = true

instance (doc : Document) : Decidable doc.HasLetteredMembers := inferInstanceAs
  (Decidable (∀ k ∈ doc.definitions.constructs, ∀ id ∈ k.memberNames, id.isLettered = true))

theorem Construct.memberNames_recase (d : Dialect) (k : Construct) :
    (k.recase d).memberNames = k.memberNames.map (·.camel) := by
  cases k <;>
    simp [memberNames, recase, Record.recase, Service.recase, Method.recase, Field.recase,
      Dialect.fieldCase, Dialect.functionCase, List.flatMap_map, List.map_flatMap,
      Function.comp_def]

/-! ## Texts of a list -/

theorem nodup_map_iff {α β γ : Type} {f : α → β} {g : α → γ} {xs : List α}
    (h : ∀ x ∈ xs, ∀ y ∈ xs, f x = f y ↔ g x = g y) : (xs.map f).Nodup ↔ (xs.map g).Nodup := by
  rw [List.Nodup, List.Nodup, List.pairwise_map, List.pairwise_map]
  exact List.Pairwise.iff_of_mem fun hx hy => not_congr (h _ hx _ hy)

/-- The items of a list have different texts under a key exactly if the names are different. -/
def Dictionary.KeepsApart (d : Dictionary) (list key : String) (names : List Identifier) : Prop :=
  ∃ texts, d.codes? list key = some texts ∧ (texts.Nodup ↔ names.Nodup)

/-- Fields of different names have different names in title case, and different getters. -/
def Dictionary.KeepsFieldsApart (d : Dictionary) (list : String) (fields : List Field) : Prop :=
  d.KeepsApart list "FieldName" (fields.map (·.name)) ∧
    d.KeepsApart list "getter" (fields.map (·.name))

theorem Dictionary.keepsFieldsApart {n : Naming} {d : Dictionary} {list : String}
    {fields : List Field} {items : List Dictionary} (hlist : d.list? list = some items)
    (hitems : List.Forall₂ (Field.Entries n) fields items) (h : ∀ f ∈ fields, f.name.IsCamel) :
    d.KeepsFieldsApart list fields := by
  have htitle : ∀ f ∈ fields, ∀ g ∈ fields,
      n.identifier f.titleName = n.identifier g.titleName ↔ f.name = g.name := by
    intro f hf g hg
    rw [Field.titleName, Field.titleName, Naming.identifier_title (h f hf).isSimple,
      Naming.identifier_title (h g hg).isSimple, (h f hf).title_eq_iff (h g hg)]
  have hgetter : ∀ f ∈ fields, ∀ g ∈ fields,
      n.identifier f.getterName = n.identifier g.getterName ↔ f.name = g.name := by
    intro f hf g hg
    rw [Field.getterName, Field.getterName, Naming.identifier_getter (h f hf).isSimple,
      Naming.identifier_getter (h g hg).isSimple, String.append_right_inj,
      (h f hf).title_eq_iff (h g hg)]
  exact ⟨⟨_, codes?_eq_some hlist (hitems.imp fun f item hf => hf.title), nodup_map_iff htitle⟩,
    ⟨_, codes?_eq_some hlist (hitems.imp fun f item hf => hf.getter), nodup_map_iff hgetter⟩⟩

/-! ## Structs of methods -/

theorem Method.argsName_eq_iff {n : Naming} {m m' : Method} (h : m.name.IsCamel)
    (h' : m'.name.IsCamel) : n.identifier m.argsName = n.identifier m'.argsName ↔ m.name = m'.name := by
  rw [identifier_argsName, identifier_argsName, String.append_left_inj, h.leaf, h'.leaf,
    h.title_eq_iff h']

theorem Method.resultName_eq_iff {n : Naming} {m m' : Method} (h : m.name.IsCamel)
    (h' : m'.name.IsCamel) :
    n.identifier m.resultName = n.identifier m'.resultName ↔ m.name = m'.name := by
  rw [identifier_resultName, identifier_resultName, String.append_left_inj, h.leaf, h'.leaf,
    h.title_eq_iff h']

theorem Method.nodup_names_records (n : Naming) (m : Method) :
    (m.records.map fun r => n.identifier r.name).Nodup := by
  have hne := argsName_ne_resultName n m m
  rw [records, resultRecord?]
  split
  · exact List.nodup_singleton _
  · simpa [argsRecord] using hne

/-- The structs of two methods share no name exactly if the methods have different names. -/
theorem Method.disjoint_names_records {n : Naming} {m m' : Method} (h : m.name.IsCamel)
    (h' : m'.name.IsCamel) :
    (m.records.map fun r => n.identifier r.name).Disjoint
      (m'.records.map fun r => n.identifier r.name) ↔ m.name ≠ m'.name := by
  have hargs (m : Method) : n.identifier m.argsName ∈ m.records.map fun r => n.identifier r.name :=
    List.mem_map.2 ⟨m.argsRecord, List.mem_cons_self, rfl⟩
  constructor
  · intro hdisjoint heq
    refine hdisjoint (hargs m) ?_
    rw [(argsName_eq_iff h h').2 heq]
    exact hargs m'
  · intro hne text hmem hmem'
    obtain ⟨r, hr, hname⟩ := List.mem_map.1 hmem
    obtain ⟨r', hr', hname'⟩ := List.mem_map.1 hmem'
    have heq : n.identifier r.name = n.identifier r'.name := hname.trans hname'.symm
    rcases eq_of_mem_records hr with rfl | rfl <;> rcases eq_of_mem_records hr' with rfl | rfl
    · exact hne ((argsName_eq_iff h h').1 heq)
    · exact argsName_ne_resultName n m m' heq
    · exact argsName_ne_resultName n m' m heq.symm
    · exact hne ((resultName_eq_iff h h').1 heq)

/-- The structs of methods have different names exactly if the methods have. -/
theorem Method.nodup_names_flatMap_records {n : Naming} {ms : List Method}
    (h : ∀ m ∈ ms, m.name.IsCamel) :
    ((ms.flatMap records).map fun r => n.identifier r.name).Nodup ↔ (ms.map (·.name)).Nodup := by
  have hpairwise : (ms.map (·.name)).Nodup ↔ ms.Pairwise fun m m' => m.name ≠ m'.name :=
    List.pairwise_map
  rw [List.map_flatMap, List.nodup_flatMap, hpairwise,
    and_iff_right fun m _ => m.nodup_names_records n]
  exact List.Pairwise.iff_of_mem fun hm hm' => disjoint_names_records (h _ hm) (h _ hm')

/-! ## Dictionaries -/

/-- What the names in the dictionary of a construct owe to those in the construct: the fields of a
struct, and the methods of a service with their arguments, their exceptions and all their structs,
have different names in title case exactly if they have different names. -/
def Construct.KeepsNamesApart (dict : Dictionary) : Construct → Prop
  | constants _ => True
  | enumeration _ => True
  | record r => dict.KeepsFieldsApart "fields" r.fields
  | service s =>
    dict.KeepsApart "function_structs" "StructName" (s.methods.map (·.name)) ∧
    ∃ methods records, dict.list? "functions" = some methods ∧
      dict.list? "function_structs" = some records ∧
      List.Forall₂ (fun m method => method.KeepsFieldsApart "args" m.args ∧
        method.KeepsFieldsApart "throws" m.throws) s.methods methods ∧
      List.Forall₂ (fun r record => record.KeepsFieldsApart "fields" r.fields)
        (s.methods.flatMap Method.records) records

theorem Record.keepsFieldsApart {n : Naming} {r : Record} {body dict : Dictionary}
    (h : r.body n = .ok body) (hdict : dict.list? "fields" = body.list? "fields")
    (hfields : ∀ f ∈ r.fields, f.name.IsCamel) : dict.KeepsFieldsApart "fields" r.fields := by
  obtain ⟨-, fields, hlist, hentries⟩ := body_entries h
  exact Dictionary.keepsFieldsApart (hdict.trans hlist) (hentries.imp fun f e he => he.1) hfields

theorem Method.isCamel_of_mem_records {m : Method}
    (h : ∀ f ∈ m.args ++ m.throws, f.name.IsCamel) {r : Record} (hr : r ∈ m.records) :
    ∀ f ∈ r.fields, f.name.IsCamel := by
  rw [List.forall_mem_append] at h
  have hsuccess : (Identifier.simple "success").IsCamel :=
    ⟨_, rfl, .intro [] 's' "uccess".toList (List.forall_mem_nil _) rfl (by decide)⟩
  rcases eq_of_mem_records hr with rfl | rfl
  · exact h.1
  · exact forall_mem_resultFields hsuccess h.2

theorem Service.keepsNamesApart {n : Naming} {package : Identifier} {inclusions : List Inclusion}
    {options : ServiceOptions} {s : Service} {dict : Dictionary}
    (h : s.dictionary n package inclusions options = .ok dict)
    (hmethods : ∀ m ∈ s.methods, m.name.IsCamel ∧ ∀ f ∈ m.args ++ m.throws, f.name.IsCamel) :
    (Construct.service s).KeepsNamesApart dict := by
  obtain ⟨methods, records, hfunctions, hstructs, hms, hrs⟩ := exists_items h
  have hms := (List.forall₂_and_left _ _).2 ⟨hmethods, hms⟩
  have hrecords : ∀ r ∈ s.methods.flatMap Method.records, ∀ f ∈ r.fields, f.name.IsCamel := by
    intro r hr
    obtain ⟨m, hm, hr⟩ := List.mem_flatMap.1 hr
    exact Method.isCamel_of_mem_records (hmethods m hm).2 hr
  have hrs := (List.forall₂_and_left _ _).2 ⟨hrecords, hrs⟩
  have hnames : List.Forall₂ (fun r record => record.code? "StructName" =
      some (n.identifier r.name)) (s.methods.flatMap Method.records) records := by
    refine hrs.imp ?_
    rintro r record ⟨-, body, hbody, hmark⟩
    rw [hmark.code? (by decide) (by decide), (Record.body_entries hbody).1]
  refine ⟨⟨_, codes?_eq_some hstructs hnames, Method.nodup_names_flatMap_records
    fun m hm => (hmethods m hm).1⟩, methods, records, hfunctions, hstructs, hms.imp ?_, hrs.imp ?_⟩
  · rintro m method ⟨⟨-, hfields⟩, hentries⟩
    obtain ⟨args, hargs, hparameters⟩ := hentries.args
    obtain ⟨throws, hthrows, hexceptions⟩ := hentries.throws
    rw [List.forall_mem_append] at hfields
    exact ⟨keepsFieldsApart hargs hparameters hfields.1,
      keepsFieldsApart hthrows hexceptions hfields.2⟩
  · rintro r record ⟨hfields, body, hbody, hmark⟩
    exact Record.keepsFieldsApart hbody (hmark.list? (by decide) (by decide)) hfields

theorem Construct.keepsNamesApart {s : Setting} {k : Construct} {dict : Dictionary}
    (h : k.dictionary s = .ok dict) (hnames : ∀ id ∈ k.memberNames, id.IsCamel) :
    k.KeepsNamesApart dict := by
  cases k with
  | constants items => trivial
  | enumeration e => trivial
  | record r =>
    rw [memberNames, List.forall_mem_map] at hnames
    obtain ⟨body, hbody, hdict⟩ := Record.exists_body_of_dictionary h
    exact Record.keepsFieldsApart hbody hdict hnames
  | service v =>
    simp only [memberNames, List.forall_mem_flatMap, List.forall_mem_cons, List.forall_mem_map]
      at hnames
    exact Service.keepsNamesApart h hnames

/-- Where each name of a field or a method starts with a letter, the names that a recased document has
are as different as those that are made of them in title case. -/
theorem Document.names_kept_apart (d : Dialect) {doc : Document} (h : doc.HasLetteredMembers) :
    ∀ k ∈ (doc.recase d).definitions.constructs, ∀ s dict, k.dictionary s = .ok dict →
      k.KeepsNamesApart dict := by
  rw [constructs_recase, List.forall_mem_map]
  intro k hk s dict hdict
  refine Construct.keepsNamesApart hdict ?_
  rw [Construct.memberNames_recase, List.forall_mem_map]
  exact fun id hid => Identifier.isCamel_camel (h k hk id hid)

/-- Two methods of a service whose names differ by an underscore before one of them. -/
theorem Document.names_kept_apart_methods :
    let doc : Document := .mk [] ⟨[], [], [], [⟨.simple "store", none,
      [⟨.simple "find_all", "", .void, [], [], false⟩,
        ⟨.simple "_FIND_all", "", .void, [], [], false⟩]⟩]⟩
    let s := Setting.ofDocument .java .none (doc.recase .java)
    doc.HasLetteredMembers ∧ ∃ v dict texts, (doc.recase .java).definitions.constructs = [.service v] ∧
      (Construct.service v).dictionary s = .ok dict ∧
      dict.codes? "function_structs" "StructName" = some texts ∧ texts.Nodup := by
  intro doc s
  let v : Service := ⟨.simple "Store", none,
    [⟨.simple "findAll", "find_all", .void, [], [], false⟩,
      ⟨.simple "_findAll", "_FIND_all", .void, [], [], false⟩]⟩
  have hnames : doc.HasLetteredMembers := by decide +kernel
  have hconstructs : (doc.recase .java).definitions.constructs = [.service v] := by decide +kernel
  have hnone : fault? ((Construct.service v).dictionary s) = none := by decide +kernel
  obtain ⟨dict, hdict⟩ := fault?_eq_none.1 hnone
  have hmem : Construct.service v ∈ (doc.recase .java).definitions.constructs := by
    rw [hconstructs]
    exact List.mem_cons_self
  obtain ⟨⟨texts, htexts, hnodup⟩, -⟩ := names_kept_apart .java hnames _ hmem s dict hdict
  have hdistinct : (v.methods.map (·.name)).Nodup := by decide +kernel
  exact ⟨hnames, v, dict, texts, hconstructs, hdict, htexts, hnodup.2 hdistinct⟩

end StubForge
