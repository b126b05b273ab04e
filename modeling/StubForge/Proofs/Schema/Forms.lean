import Mathlib.Data.List.Forall2
import StubForge.Proofs.Json.RoundTrip
import StubForge.Schema.Writing

/-! The forms that a document can have as data: a member that holds its default may be left out,
anywhere in the tree. -/
namespace StubForge

namespace Writing

/-- A member of an object: its key, what its value can look like, and whether it may be left out. -/
structure Member where
  key : String
  form : Json → Prop
  omissible : Prop

/-- The members of an object that are written, each in its turn. -/
inductive Members : List Member → List (String × Json) → Prop
  | nil : Members [] []
  | present {m : Member} {ms : List Member} {j : Json} {js : List (String × Json)}
      (hform : m.form j) (h : Members ms js) : Members (m :: ms) ((m.key, j) :: js)
  | absent {m : Member} {ms : List Member} {js : List (String × Json)}
      (homissible : m.omissible) (h : Members ms js) : Members (m :: ms) js

def IsRecord (ms : List Member) (j : Json) : Prop := ∃ js, Members ms js ∧ j = .record js

def IsArray {α : Type} (form : α → Json → Prop) (xs : List α) (j : Json) : Prop :=
  ∃ js, List.Forall₂ form xs js ∧ j = .array js

namespace Member

def required (key : String) (value : Json) : Member := ⟨key, (· = value), False⟩

/-- A member that may be left out where it holds its default. -/
def defaulted (key : String) (value : Json) (holdsDefault : Prop) : Member :=
  ⟨key, (· = value), holdsDefault⟩

/-- A member for which null, or nothing, stands where there is no value. -/
def optional {α : Type} (key : String) (form : α → Json → Prop) (value : Option α) : Member :=
  ⟨key, fun j => value.elim (j = .null) (form · j), value = none⟩

/-- A member that may be left out where it has no items. -/
def items {α : Type} (key : String) (form : α → Json → Prop) (xs : List α) : Member :=
  ⟨key, IsArray form xs, xs = []⟩

end Member

theorem isArray_map {α : Type} {form : α → Json → Prop} {f : α → Json} (h : ∀ x, form x (f x))
    (xs : List α) : IsArray form xs (.array (xs.map f)) :=
  ⟨_, List.forall₂_map_right_iff.2 (List.forall₂_same.2 fun x _ => h x), rfl⟩

theorem Member.optional_form {α : Type} {form : α → Json → Prop} {f : α → Json}
    (h : ∀ x, form x (f x)) (key : String) (value : Option α) :
    (optional key form value).form (.optional (value.map f)) := by
  cases value with
  | none => rfl
  | some x => exact h x

end Writing

open Writing

/-! Nothing of a name or of a value has a default: each has the one form. -/

def Identifier.WrittenAs (id : Identifier) : Json → Prop := (· = id.toJson)

def Literal.WrittenAs (v : Literal) : Json → Prop := (· = v.toJson)

def Constant.WrittenAs (c : Constant) : Json → Prop := IsRecord [
  .required "name" c.name.toJson, .required "field_type" c.ty.toJson,
  .required "value" c.value.toJson]

def Field.WrittenAs (f : Field) : Json → Prop := IsRecord [
  .required "id" (.int f.id.toInt), .required "name" f.name.toJson,
  .defaulted "original_name" (.text f.declared) (f.declared = ""),
  .required "field_type" f.ty.toJson,
  .defaulted "requiredness" f.requiredness.toJson (f.requiredness = .unmarked),
  .optional "default" Literal.WrittenAs f.initial]

def Enumerator.WrittenAs (m : Enumerator) : Json → Prop := IsRecord [
  .required "name" m.name.toJson,
  .defaulted "original_name" (.text m.declared) (m.declared = ""),
  .required "value" (.int m.value.toInt)]

def Enumeration.WrittenAs (e : Enumeration) : Json → Prop := IsRecord [
  .required "name" e.name.toJson, ⟨"values", IsArray Enumerator.WrittenAs e.members, False⟩]

def Record.WrittenAs (r : Record) : Json → Prop := IsRecord [
  .required "name" r.name.toJson, .defaulted "kind" r.kind.toJson (r.kind = .struct),
  ⟨"fields", IsArray Field.WrittenAs r.fields, False⟩]

def Method.WrittenAs (m : Method) : Json → Prop := IsRecord [
  .required "name" m.name.toJson,
  .defaulted "original_name" (.text m.declared) (m.declared = ""),
  .required "return_type" m.returns.toJson,
  .items "args" Field.WrittenAs m.args, .items "throws" Field.WrittenAs m.throws,
  .defaulted "oneway" (.bool m.oneway) (m.oneway = false)]

def Parent.WrittenAs (p : Parent) : Json → Prop := IsRecord [
  .required "name" p.name.toJson,
  .optional "prefix" Identifier.WrittenAs p.scope]

def Service.WrittenAs (s : Service) : Json → Prop := IsRecord [
  .required "name" s.name.toJson,
  .optional "parent" Parent.WrittenAs s.parent,
  .items "functions" Method.WrittenAs s.methods]

namespace Document

mutual

/-- Of the members of headers none has a default. -/
def WrittenAs : Document → Json → Prop
  | .mk headers d => IsRecord [
    ⟨"headers", fun j => ∃ js, HeadersWrittenAs headers js ∧ j = .array js, headers = []⟩,
    .items "consts" Constant.WrittenAs d.constants,
    .items "enums" Enumeration.WrittenAs d.enumerations,
    .items "structs" Record.WrittenAs d.records,
    .items "services" Service.WrittenAs d.services]

def HeadersWrittenAs : List (Header Document) → List Json → Prop
  | [], js => js = []
  | h :: r, js => ∃ j rest, HeaderWrittenAs h j ∧ HeadersWrittenAs r rest ∧ js = j :: rest

def HeaderWrittenAs : Header Document → Json → Prop
  | .inclusion localName document, j => ∃ content, IsRecord [
    .required "prefix" localName.toJson, ⟨"document", WrittenAs document, False⟩] content ∧
      j = .choice "include" content
  | .package scope id, j => ∃ content, IsRecord [
    .required "scope" (.text scope), .required "id" id.toJson] content ∧
      j = .choice "namespace" content

end

end Document

/-! ## The form with all members -/

theorem Identifier.writtenAs_toJson (id : Identifier) : id.WrittenAs id.toJson := rfl

theorem Literal.writtenAs_toJson (v : Literal) : v.WrittenAs v.toJson := rfl

theorem Constant.writtenAs_toJson (c : Constant) : c.WrittenAs c.toJson :=
  ⟨_, .present rfl (.present rfl (.present rfl .nil)), rfl⟩

theorem Field.writtenAs_toJson (f : Field) : f.WrittenAs f.toJson :=
  ⟨_, .present rfl (.present rfl (.present rfl (.present rfl (.present rfl
    (.present (Member.optional_form Literal.writtenAs_toJson _ _) .nil))))), rfl⟩

theorem Enumerator.writtenAs_toJson (m : Enumerator) : m.WrittenAs m.toJson :=
  ⟨_, .present rfl (.present rfl (.present rfl .nil)), rfl⟩

theorem Enumeration.writtenAs_toJson (e : Enumeration) : e.WrittenAs e.toJson :=
  ⟨_, .present rfl (.present (isArray_map Enumerator.writtenAs_toJson _) .nil), rfl⟩

theorem Record.writtenAs_toJson (r : Record) : r.WrittenAs r.toJson :=
  ⟨_, .present rfl (.present rfl (.present (isArray_map Field.writtenAs_toJson _) .nil)), rfl⟩

theorem Method.writtenAs_toJson (m : Method) : m.WrittenAs m.toJson :=
  ⟨_, .present rfl (.present rfl (.present rfl
    (.present (isArray_map Field.writtenAs_toJson _)
      (.present (isArray_map Field.writtenAs_toJson _) (.present rfl .nil))))), rfl⟩

theorem Parent.writtenAs_toJson (p : Parent) : p.WrittenAs p.toJson :=
  ⟨_, .present rfl (.present (Member.optional_form Identifier.writtenAs_toJson _ _) .nil), rfl⟩

theorem Service.writtenAs_toJson (s : Service) : s.WrittenAs s.toJson :=
  ⟨_, .present rfl (.present (Member.optional_form Parent.writtenAs_toJson _ _)
    (.present (isArray_map Method.writtenAs_toJson _) .nil)), rfl⟩

namespace Document

mutual

theorem writtenAs_toJson : ∀ doc : Document, doc.WrittenAs doc.toJson
  | .mk headers _ =>
    ⟨_, .present ⟨_, headersWrittenAs_toJson headers, rfl⟩
      (.present (isArray_map Constant.writtenAs_toJson _)
        (.present (isArray_map Enumeration.writtenAs_toJson _)
          (.present (isArray_map Record.writtenAs_toJson _)
            (.present (isArray_map Service.writtenAs_toJson _) .nil)))), rfl⟩

theorem headersWrittenAs_toJson : ∀ headers : List (Header Document),
    HeadersWrittenAs headers (headersToJson headers)
  | [] => rfl
  | h :: r => ⟨_, _, headerWrittenAs_toJson h, headersWrittenAs_toJson r, rfl⟩

theorem headerWrittenAs_toJson : ∀ header : Header Document,
    HeaderWrittenAs header (headerToJson header)
  | .inclusion _ document =>
    ⟨_, ⟨_, .present rfl (.present (writtenAs_toJson document) .nil), rfl⟩, rfl⟩
  | .package _ _ => ⟨_, ⟨_, .present rfl (.present rfl .nil), rfl⟩, rfl⟩

end

end Document

/-! ## Null -/

theorem Literal.toJson_ne_null (v : Literal) : v.toJson ≠ .null := by
  cases v <;> exact Json.noConfusion

theorem Writing.IsRecord.ne_null {ms : List Member} {j : Json} (h : IsRecord ms j) : j ≠ .null := by
  obtain ⟨js, -, rfl⟩ := h
  exact Json.noConfusion

/-! ## Every form is a tree that has a text -/

namespace Json

theorem writable_text (s : String) : (text s).Writable := rfl

theorem writable_int (i : Int) : (int i).Writable := Decimal.wellFormed_ofInt i

theorem writable_number {n : Numeral} (h : n.WellFormed) : (number n).Writable := h

theorem writable_bool (b : Bool) : (bool b).Writable := trivial

theorem writable_pair {j k : Json} (hj : j.Writable) (hk : k.Writable) :
    (array [j, k]).Writable := ⟨hj, hk, trivial⟩

theorem writable_array {items : List Json} (h : ∀ j ∈ items, j.Writable) :
    (array items).Writable := by
  induction items with
  | nil => trivial
  | cons item r ih =>
    obtain ⟨hitem, hr⟩ := List.forall_mem_cons.1 h
    exact ⟨hitem, ih hr⟩

theorem writable_record {members : List (String × Json)} (h : ∀ p ∈ members, p.2.Writable) :
    (record members).Writable := by
  induction members with
  | nil => trivial
  | cons member r ih =>
    obtain ⟨hmember, hr⟩ := List.forall_mem_cons.1 h
    exact ⟨rfl, hmember, ih hr⟩

theorem writable_choice {content : Json} (h : content.Writable) (key : String) :
    (choice key content).Writable := ⟨rfl, h, trivial⟩

end Json

namespace Writing

/-- Whatever the value of the member looks like, it has a text. -/
def Member.Writable (m : Member) : Prop := ∀ j, m.form j → j.Writable

theorem IsRecord.writable {ms : List Member} {j : Json} (h : IsRecord ms j)
    (hms : ∀ m ∈ ms, m.Writable) : j.Writable := by
  obtain ⟨js, hjs, rfl⟩ := h
  refine Json.writable_record ?_
  induction hjs with
  | nil => exact List.forall_mem_nil _
  | present hform _ ih =>
    obtain ⟨hm, hms⟩ := List.forall_mem_cons.1 hms
    exact List.forall_mem_cons.2 ⟨hm _ hform, ih hms⟩
  | absent _ _ ih => exact ih (List.forall_mem_cons.1 hms).2

section Members

variable {α : Type} {form : α → Json → Prop} {value : Json} {key : String}

theorem IsArray.writable {xs : List α} {j : Json} (h : IsArray form xs j)
    (hform : ∀ x j, form x j → j.Writable) : j.Writable := by
  obtain ⟨js, hjs, rfl⟩ := h
  refine Json.writable_array ?_
  induction hjs with
  | nil => exact List.forall_mem_nil _
  | cons hx _ ih => exact List.forall_mem_cons.2 ⟨hform _ _ hx, ih⟩

theorem Member.writable_required (h : value.Writable) : (required key value).Writable := by
  rintro j rfl
  exact h

theorem Member.writable_defaulted {holdsDefault : Prop} (h : value.Writable) :
    (defaulted key value holdsDefault).Writable := by
  rintro j rfl
  exact h

theorem Member.writable_optional (h : ∀ x j, form x j → j.Writable) (value : Option α) :
    (optional key form value).Writable := by
  intro j hj
  cases value with
  | none =>
    cases (hj : j = .null)
    trivial
  | some x => exact h x j hj

theorem Member.writable_items (h : ∀ x j, form x j → j.Writable) (xs : List α) :
    (items key form xs).Writable := fun _ hj => hj.writable h

end Members

end Writing

theorem Ty.writable_toJson (ty : Ty) : ty.toJson.Writable := by
  induction ty with
  | void | onewayVoid | bool | byte | i16 | i32 | i64 | double | string | binary => rfl
  | enum id | struct id | reference id => exact Json.writable_choice (Json.writable_text _) _
  | list item ih | set item ih => exact Json.writable_choice ih _
  | map key value ihkey ihvalue => exact Json.writable_choice (Json.writable_pair ihkey ihvalue) _

namespace Literal

mutual

theorem writable_toJson : ∀ v : Literal, v.toJson.Writable
  | .null => rfl
  | .string s => Json.writable_choice (Json.writable_text s) _
  | .double d => Json.writable_choice (Json.writable_number (Decimal.wellFormed_numeral _ d)) _
  | .int _ => Json.writable_choice (Json.writable_int _) _
  | .bool b => Json.writable_choice (Json.writable_bool b) _
  | .list items | .set items => Json.writable_choice (writable_toJsons items) _
  | .map entries => Json.writable_choice (writable_entriesToJson entries) _
  | .enum _ _ => ⟨rfl, ⟨rfl, rfl, rfl, rfl, trivial⟩, trivial⟩
  | .id _ => Json.writable_choice (Json.writable_text _) _

theorem writable_toJsons : ∀ items : List Literal, (Json.array (toJsons items)).Writable
  | [] => trivial
  | v :: r => ⟨writable_toJson v, writable_toJsons r⟩

theorem writable_entriesToJson : ∀ entries : List (Literal × Literal),
    (Json.array (entriesToJson entries)).Writable
  | [] => trivial
  | (k, v) :: r =>
    ⟨Json.writable_pair (writable_toJson k) (writable_toJson v), writable_entriesToJson r⟩

end

end Literal

theorem Requiredness.writable_toJson (r : Requiredness) : r.toJson.Writable := by
  cases r <;> rfl

theorem RecordKind.writable_toJson (k : RecordKind) : k.toJson.Writable := by
  cases k <;> rfl

theorem Identifier.writable_writtenAs (id : Identifier) (j : Json) (h : id.WrittenAs j) :
    j.Writable := by
  cases h
  exact Json.writable_text _

theorem Literal.writable_writtenAs (v : Literal) (j : Json) (h : v.WrittenAs j) :
    j.Writable := by
  cases h
  exact v.writable_toJson

theorem Field.writable_writtenAs (f : Field) (j : Json) (h : f.WrittenAs j) : j.Writable := by
  refine IsRecord.writable h ?_
  simp only [List.forall_mem_cons]
  exact ⟨Member.writable_required (Json.writable_int _),
    Member.writable_required (Json.writable_text _),
    Member.writable_defaulted (Json.writable_text _),
    Member.writable_required f.ty.writable_toJson,
    Member.writable_defaulted f.requiredness.writable_toJson,
    Member.writable_optional Literal.writable_writtenAs _, List.forall_mem_nil _⟩

theorem Constant.writable_writtenAs (c : Constant) (j : Json) (h : c.WrittenAs j) :
    j.Writable := by
  refine IsRecord.writable h ?_
  simp only [List.forall_mem_cons]
  exact ⟨Member.writable_required (Json.writable_text _),
    Member.writable_required c.ty.writable_toJson,
    Member.writable_required c.value.writable_toJson, List.forall_mem_nil _⟩

theorem Enumerator.writable_writtenAs (m : Enumerator) (j : Json) (h : m.WrittenAs j) :
    j.Writable := by
  refine IsRecord.writable h ?_
  simp only [List.forall_mem_cons]
  exact ⟨Member.writable_required (Json.writable_text _),
    Member.writable_defaulted (Json.writable_text _),
    Member.writable_required (Json.writable_int _), List.forall_mem_nil _⟩

theorem Enumeration.writable_writtenAs (e : Enumeration) (j : Json) (h : e.WrittenAs j) :
    j.Writable := by
  refine IsRecord.writable h ?_
  simp only [List.forall_mem_cons]
  exact ⟨Member.writable_required (Json.writable_text _),
    fun _ hj => hj.writable Enumerator.writable_writtenAs, List.forall_mem_nil _⟩

theorem Record.writable_writtenAs (r : Record) (j : Json) (h : r.WrittenAs j) : j.Writable := by
  refine IsRecord.writable h ?_
  simp only [List.forall_mem_cons]
  exact ⟨Member.writable_required (Json.writable_text _),
    Member.writable_defaulted r.kind.writable_toJson,
    fun _ hj => hj.writable Field.writable_writtenAs, List.forall_mem_nil _⟩

theorem Method.writable_writtenAs (m : Method) (j : Json) (h : m.WrittenAs j) : j.Writable := by
  refine IsRecord.writable h ?_
  simp only [List.forall_mem_cons]
  exact ⟨Member.writable_required (Json.writable_text _),
    Member.writable_defaulted (Json.writable_text _),
    Member.writable_required m.returns.writable_toJson,
    Member.writable_items Field.writable_writtenAs _,
    Member.writable_items Field.writable_writtenAs _,
    Member.writable_defaulted (Json.writable_bool _), List.forall_mem_nil _⟩

theorem Parent.writable_writtenAs (p : Parent) (j : Json) (h : p.WrittenAs j) : j.Writable := by
  refine IsRecord.writable h ?_
  simp only [List.forall_mem_cons]
  exact ⟨Member.writable_required (Json.writable_text _),
    Member.writable_optional Identifier.writable_writtenAs _, List.forall_mem_nil _⟩

theorem Service.writable_writtenAs (s : Service) (j : Json) (h : s.WrittenAs j) :
    j.Writable := by
  refine IsRecord.writable h ?_
  simp only [List.forall_mem_cons]
  exact ⟨Member.writable_required (Json.writable_text _),
    Member.writable_optional Parent.writable_writtenAs _,
    Member.writable_items Method.writable_writtenAs _, List.forall_mem_nil _⟩

namespace Document

mutual

theorem writable_writtenAs : ∀ (doc : Document) (j : Json), doc.WrittenAs j → j.Writable
  | .mk headers d, j, h => by
    refine IsRecord.writable h ?_
    simp only [List.forall_mem_cons]
    refine ⟨?_, Member.writable_items Constant.writable_writtenAs _,
      Member.writable_items Enumeration.writable_writtenAs _,
      Member.writable_items Record.writable_writtenAs _,
      Member.writable_items Service.writable_writtenAs _, List.forall_mem_nil _⟩
    rintro j ⟨js, hjs, rfl⟩
    exact writable_headersWrittenAs headers js hjs

theorem writable_headersWrittenAs : ∀ (headers : List (Header Document)) (js : List Json),
    HeadersWrittenAs headers js → (Json.array js).Writable
  | [], _, h => by
    cases h
    trivial
  | header :: r, _, ⟨j, rest, hheader, hrest, hjs⟩ => by
    cases hjs
    exact ⟨writable_headerWrittenAs header j hheader, writable_headersWrittenAs r rest hrest⟩

theorem writable_headerWrittenAs : ∀ (header : Header Document) (j : Json),
    HeaderWrittenAs header j → j.Writable
  | .inclusion _ document, _, ⟨content, hcontent, hj⟩ => by
    subst hj
    refine Json.writable_choice (hcontent.writable ?_) _
    simp only [List.forall_mem_cons]
    exact ⟨Member.writable_required (Json.writable_text _),
      writable_writtenAs document, List.forall_mem_nil _⟩
  | .package _ _, _, ⟨content, hcontent, hj⟩ => by
    subst hj
    refine Json.writable_choice (hcontent.writable ?_) _
    simp only [List.forall_mem_cons]
    exact ⟨Member.writable_required (Json.writable_text _),
      Member.writable_required (Json.writable_text _), List.forall_mem_nil _⟩

end

end Document
end StubForge
