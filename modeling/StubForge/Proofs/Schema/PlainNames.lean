import StubForge.Proofs.Generation.Inclusions
import StubForge.Proofs.Schema.Reading
import StubForge.Proofs.Text.Brackets

/-! Documents whose names have no brackets, no double quotes and no backslashes in them. In the
casing of a dialect they have none either. -/
namespace StubForge

/-! ## Names -/

theorem Text.mem_marks {c : Char} (h : isMark c = true) :
    c ∈ ['(', ')', '[', ']', '{', '}'] ++ ['"', '\\'] := by
  simp only [isMark, isBracket, Bool.or_eq_true, List.contains_iff_mem, beq_iff_eq] at h
  rcases h with (h | rfl) | rfl
  · exact List.mem_append_left _ h
  · decide
  · decide

theorem Text.sign_of_isMark {c : Char} (h : isMark c = true) : isSign c = true ∧ c ≠ '_' := by
  have hsigns : (['(', ')', '[', ']', '{', '}'] ++ ['"', '\\']).all
      (fun c => isSign c && c != '_') = true := by decide
  simpa using List.all_eq_true.1 hsigns c (mem_marks h)

namespace Identifier

/-- A name with no mark in any of its segments. -/
def Plain (id : Identifier) : Prop := ∀ s ∈ id.segments, Text.Plain s

instance (id : Identifier) : Decidable id.Plain :=
  List.decidableBAll Text.Plain id.segments

theorem exists_of_mem_mapLast {f : String → String} {xs : List String} {t : String}
    (h : t ∈ mapLast f xs) : ∃ s ∈ xs, t = s ∨ t = f s := by
  induction xs with
  | nil => cases h
  | cons x xs ih =>
    cases xs with
    | nil => exact ⟨x, List.mem_cons_self, .inr (List.mem_singleton.1 h)⟩
    | cons y ys =>
      rcases List.mem_cons.1 h with rfl | h
      · exact ⟨_, List.mem_cons_self, .inl rfl⟩
      · obtain ⟨s, hs, ht⟩ := ih h
        exact ⟨s, List.mem_cons_of_mem x hs, ht⟩

namespace Plain

variable {id : Identifier}

theorem mapName (h : id.Plain) {f : String → String} (hf : ∀ s, Text.Plain s → Text.Plain (f s)) :
    (id.mapName f).Plain := by
  intro t ht
  rw [segments_mapName] at ht
  obtain ⟨s, hs, rfl | rfl⟩ := exists_of_mem_mapLast ht
  · exact h _ hs
  · exact hf s (h s hs)

theorem prepend (h : id.Plain) {before : String} (hbefore : Text.Plain before) :
    (id.prepend before).Plain := h.mapName fun _ hs => hbefore.append hs

theorem append (h : id.Plain) {after : String} (hafter : Text.Plain after) :
    (id.append after).Plain := h.mapName fun _ hs => hs.append hafter

theorem name (h : id.Plain) : Text.Plain id.name := by
  rw [Identifier.name]
  cases hlast : id.segments.getLast? with
  | none => exact Text.plain_empty
  | some s => exact h s (List.mem_of_getLast? hlast)

theorem leaf (h : id.Plain) : id.leaf.Plain := List.forall_mem_singleton.2 h.name

theorem fullName (h : id.Plain) : Text.Plain id.fullName :=
  Text.Plain.intercalate (Text.plain_ofList rfl) h

theorem qualifier (h : id.Plain) {scope : Identifier} (hscope : id.qualifier = some scope) :
    scope.Plain := by
  cases id with
  | simple name => cases hscope
  | qualified segments =>
    intro s hs
    rw [segments_of_ofSegments? hscope] at hs
    exact h s (List.dropLast_subset _ hs)

/-- A casing that brings no marks into a name. -/
theorem recase (h : id.Plain) {casing : List Char → List Char}
    (hcasing : ∀ name c, Text.isMark c = true → c ∈ casing name → c ∈ name) :
    (id.recase casing).Plain := by
  refine h.mapName fun s hs c hc => ?_
  rw [String.toList_ofList] at hc
  by_contra hmark
  rw [Bool.not_eq_false] at hmark
  rw [hs c (hcasing s.toList c hmark hc)] at hmark
  cases hmark

theorem title (h : id.Plain) : id.title.Plain :=
  h.recase fun _ _ hmark => Text.sign_mem_titleCase (Text.sign_of_isMark hmark).1

theorem camel (h : id.Plain) : id.camel.Plain :=
  h.recase fun _ _ hmark => Text.sign_mem_camelCase (Text.sign_of_isMark hmark).1

theorem upper (h : id.Plain) : id.upper.Plain :=
  h.recase fun _ _ hmark =>
    Text.sign_mem_shoutCase (Text.sign_of_isMark hmark).1 (Text.sign_of_isMark hmark).2

theorem memberCase (d : Dialect) (h : id.Plain) : (d.memberCase id).Plain := by
  cases d with
  | scala => exact h.title
  | java => exact h.upper

end Plain
end Identifier

/-! ## Types and values -/

namespace Ty

/-- The names in a type are plain. -/
def Plain : Ty → Prop
  | enum id | struct id | reference id => id.Plain
  | list item | set item => item.Plain
  | map key value => key.Plain ∧ value.Plain
  | _ => True

theorem Plain.recase (d : Dialect) {t : Ty} (h : t.Plain) : (t.recase d).Plain := by
  induction t with
  | enum id => exact Identifier.Plain.title h
  | struct id => exact Identifier.Plain.title h
  | reference id => exact Identifier.Plain.title h
  | list item ih => exact ih h
  | set item ih => exact ih h
  | map key value ihk ihv => exact ⟨ihk h.1, ihv h.2⟩
  | _ => trivial

end Ty

namespace Literal

mutual

/-- The names in a value are plain. The strings in it may be any. -/
def Plain : Literal → Prop
  | .enum enumeration member => enumeration.Plain ∧ member.Plain
  | .id name => name.Plain
  | .list items => PlainAll items
  | .set items => PlainAll items
  | .map entries => PlainEntries entries
  | _ => True

def PlainAll : List Literal → Prop
  | [] => True
  | v :: r => v.Plain ∧ PlainAll r

def PlainEntries : List (Literal × Literal) → Prop
  | [] => True
  | (k, v) :: r => (k.Plain ∧ v.Plain) ∧ PlainEntries r

end

mutual

theorem plain_recase (d : Dialect) : ∀ {v : Literal}, v.Plain → (v.recase d).Plain
  | .null, _ | .string _, _ | .double _, _ | .int _, _ | .bool _, _ => trivial
  | .id _, h => h
  | .enum _ _, h => ⟨h.1.title, h.2.memberCase d⟩
  | .list _, h => plainAll_recaseAll d h
  | .set _, h => plainAll_recaseAll d h
  | .map _, h => plainEntries_recaseEntries d h

theorem plainAll_recaseAll (d : Dialect) :
    ∀ {vs : List Literal}, PlainAll vs → PlainAll (recaseAll d vs)
  | [], _ => trivial
  | _ :: _, h => ⟨plain_recase d h.1, plainAll_recaseAll d h.2⟩

theorem plainEntries_recaseEntries (d : Dialect) :
    ∀ {es : List (Literal × Literal)}, PlainEntries es → PlainEntries (recaseEntries d es)
  | [], _ => trivial
  | _ :: _, h =>
    ⟨⟨plain_recase d h.1.1, plain_recase d h.1.2⟩, plainEntries_recaseEntries d h.2⟩

end

end Literal

/-! ## Declarations -/

/-- What a field is declared as may be any text. -/
structure Field.Plain (f : Field) : Prop where
  name : f.name.Plain
  ty : f.ty.Plain
  initial : ∀ v ∈ f.initial, v.Plain

theorem Field.Plain.recase (d : Dialect) {f : Field} (h : f.Plain) : (f.recase d).Plain := by
  refine ⟨h.name.camel, h.ty.recase d, ?_⟩
  intro v hv
  obtain ⟨w, hw, rfl⟩ := Option.map_eq_some_iff.1 hv
  exact Literal.plain_recase d (h.initial w hw)

structure Constant.Plain (c : Constant) : Prop where
  name : c.name.Plain
  ty : c.ty.Plain
  value : c.value.Plain

theorem Constant.Plain.recase (d : Dialect) {c : Constant} (h : c.Plain) : (c.recase d).Plain :=
  ⟨h.name, h.ty.recase d, Literal.plain_recase d h.value⟩

structure Enumeration.Plain (e : Enumeration) : Prop where
  name : e.name.Plain
  members : ∀ m ∈ e.members, m.name.Plain

theorem Enumeration.Plain.recase (d : Dialect) {e : Enumeration} (h : e.Plain) :
    (e.recase d).Plain :=
  ⟨h.name.title, List.forall_mem_map.2 fun m hm => (h.members m hm).memberCase d⟩

structure Record.Plain (r : Record) : Prop where
  name : r.name.Plain
  fields : ∀ f ∈ r.fields, f.Plain

theorem Record.Plain.recase (d : Dialect) {r : Record} (h : r.Plain) : (r.recase d).Plain :=
  ⟨h.name.title, List.forall_mem_map.2 fun f hf => (h.fields f hf).recase d⟩

structure Method.Plain (m : Method) : Prop where
  name : m.name.Plain
  returns : m.returns.Plain
  args : ∀ f ∈ m.args, f.Plain
  throws : ∀ f ∈ m.throws, f.Plain

theorem Method.Plain.recase (d : Dialect) {m : Method} (h : m.Plain) : (m.recase d).Plain where
  name := h.name.camel
  returns := h.returns.recase d
  args := List.forall_mem_map.2 fun f hf => (h.args f hf).recase d
  throws := List.forall_mem_map.2 fun f hf => (h.throws f hf).recase d

structure Parent.Plain (p : Parent) : Prop where
  name : p.name.Plain
  scope : ∀ s ∈ p.scope, s.Plain

structure Service.Plain (s : Service) : Prop where
  name : s.name.Plain
  parent : ∀ p ∈ s.parent, p.Plain
  methods : ∀ m ∈ s.methods, m.Plain

theorem Service.Plain.recase (d : Dialect) {s : Service} (h : s.Plain) : (s.recase d).Plain := by
  refine ⟨h.name.title, ?_, List.forall_mem_map.2 fun m hm => (h.methods m hm).recase d⟩
  intro p hp
  obtain ⟨q, hq, rfl⟩ := Option.map_eq_some_iff.1 hp
  exact ⟨(h.parent q hq).name.title, (h.parent q hq).scope⟩

def Construct.Plain : Construct → Prop
  | constants items => ∀ c ∈ items, c.Plain
  | enumeration e => e.Plain
  | record r => r.Plain
  | service s => s.Plain

theorem Construct.Plain.recase (d : Dialect) {k : Construct} (h : k.Plain) :
    (k.recase d).Plain := by
  cases k with
  | constants items => exact List.forall_mem_map.2 fun c hc => (h c hc).recase d
  | enumeration e => exact Enumeration.Plain.recase d h
  | record r => exact Record.Plain.recase d h
  | service s => exact Service.Plain.recase d h

/-! ## Documents -/

namespace Document

/-- The packages that a document declares have plain names. -/
def PlainPackages (doc : Document) : Prop :=
  ∀ scope id, Header.package scope id ∈ doc.headers → id.Plain

/-- All names that a document declares or refers to are plain, and so are the local names and the
packages of the documents it includes. -/
structure PlainNames (doc : Document) : Prop where
  packages : doc.PlainPackages
  inclusions : ∀ i ∈ doc.inclusions, i.localName.Plain ∧ i.document.PlainPackages
  definitions : ∀ k ∈ doc.definitions.constructs, k.Plain

theorem PlainPackages.packageFor {doc : Document} (h : doc.PlainPackages) (d : Dialect) :
    (doc.packageFor d).Plain := by
  rw [Document.packageFor]
  cases hfound : d.packageScopes.findSome? doc.package? with
  | none => decide +kernel
  | some id =>
    obtain ⟨scope, -, hscope⟩ := List.exists_of_findSome?_eq_some hfound
    exact h scope id (mem_of_packageIn? hscope)

end Document

/-- The packages of the included documents have plain names. -/
def Naming.Plain (n : Naming) : Prop := ∀ p ∈ n.packages, p.2.Plain

/-- What the files of a document have in common has plain names. -/
structure Setting.Plain (s : Setting) : Prop where
  naming : s.naming.Plain
  package : s.package.Plain
  inclusions : ∀ i ∈ s.inclusions,
    i.localName.Plain ∧ (i.document.packageFor s.naming.dialect).Plain

theorem Document.PlainNames.setting {doc : Document} (h : doc.PlainNames) (d : Dialect)
    (options : ServiceOptions) : (Setting.ofDocument d options (doc.recase d)).Plain := by
  have hinclusions : ∀ i ∈ (doc.recase d).inclusions,
      i.localName.Plain ∧ (i.document.packageFor d).Plain := by
    rw [inclusions_recase]
    refine List.forall_mem_map.2 fun i hi => ⟨(h.inclusions i hi).1, ?_⟩
    rw [packageFor_recase]
    exact (h.inclusions i hi).2.packageFor d
  refine ⟨fun p hp => ?_, ?_, hinclusions⟩
  · obtain ⟨i, hi, rfl⟩ := List.mem_map.1 (List.mem_reverse.1 hp)
    exact (hinclusions i hi).2
  · have hpackage : ((doc.recase d).packageFor d).Plain := by
      rw [packageFor_recase]
      exact h.packages.packageFor d
    exact hpackage

end StubForge
