import StubForge.Proofs.Schema.Values
import StubForge.Schema.Loading

/-! Reading a document back from each of its forms. -/
namespace StubForge

open Writing

/-! ## Names and doubles -/

def Field.atoms (f : Field) : List Atom :=
  .name f.name :: (f.ty.atoms ++ f.initial.elim [] (·.atoms))

def Constant.atoms (c : Constant) : List Atom := .name c.name :: (c.ty.atoms ++ c.value.atoms)

def Enumerator.atoms (m : Enumerator) : List Atom := [.name m.name]

def Enumeration.atoms (e : Enumeration) : List Atom := .name e.name :: e.members.flatMap (·.atoms)

def Record.atoms (r : Record) : List Atom := .name r.name :: r.fields.flatMap (·.atoms)

def Method.atoms (m : Method) : List Atom :=
  .name m.name :: (m.returns.atoms ++ (m.args.flatMap (·.atoms) ++ m.throws.flatMap (·.atoms)))

def Parent.atoms (p : Parent) : List Atom := .name p.name :: p.scope.elim [] ([.name ·])

def Service.atoms (s : Service) : List Atom :=
  .name s.name :: (s.parent.elim [] (·.atoms) ++ s.methods.flatMap (·.atoms))

namespace Document

mutual

def atoms : Document → List Atom
  | .mk headers d => atomsOfHeaders headers ++ (d.constants.flatMap (·.atoms) ++
    (d.enumerations.flatMap (·.atoms) ++
      (d.records.flatMap (·.atoms) ++ d.services.flatMap (·.atoms))))

def atomsOfHeaders : List (Header Document) → List Atom
  | [] => []
  | h :: r => atomsOfHeader h ++ atomsOfHeaders r

def atomsOfHeader : Header Document → List Atom
  | .inclusion localName document => .name localName :: atoms document
  | .package _ id => [.name id]

end

end Document

/-! ## Nouns -/

namespace Reading

/-- Every form of a noun is read as the noun. -/
def ReadsForms {α : Type} (read : Nat → Json → Option α) (form : α → Json → Prop)
    (toJson : α → Json) (atoms : α → List Atom) : Prop :=
  ∀ {x : α} {depth : Nat} {j : Json}, form x j → (toJson x).nesting ≤ depth →
    (∀ a ∈ atoms x, a.ReadsBack) → read depth j = some x

namespace ReadsForms

variable {α : Type} {read : Nat → Json → Option α} {form : α → Json → Prop} {toJson : α → Json}
  {atoms : α → List Atom} {xs : List α} {depth : Nat}

theorem of_mem (h : ReadsForms read form toJson atoms)
    (hnesting : ∀ j ∈ xs.map toJson, j.nesting ≤ depth)
    (hatoms : ∀ a ∈ xs.flatMap atoms, a.ReadsBack) :
    ∀ x ∈ xs, ∀ j, form x j → read depth j = some x := fun x hx _ hj =>
  h hj (hnesting _ (List.mem_map_of_mem hx)) fun a ha =>
    hatoms a (List.mem_flatMap.2 ⟨x, hx, ha⟩)

theorem readList {j : Json} (h : ReadsForms read form toJson atoms) (hj : IsArray form xs j)
    (hnesting : (Json.array (xs.map toJson)).nesting ≤ depth)
    (hatoms : ∀ a ∈ xs.flatMap atoms, a.ReadsBack) : Reading.readList read depth j = some xs := by
  obtain ⟨depth, rfl, hitems⟩ := Json.exists_of_nesting_array hnesting
  exact readList_of_isArray hj (h.of_mem hitems hatoms)

theorem items {key : String} {v : Option Json} (h : ReadsForms read form toJson atoms)
    (hv : (Member.items key form xs).Has v)
    (hnesting : (Json.array (xs.map toJson)).nesting ≤ depth)
    (hatoms : ∀ a ∈ xs.flatMap atoms, a.ReadsBack) :
    defaulted [] (Reading.readList read depth) v = some xs :=
  defaulted_of_has hv id fun _ hj => h.readList hj hnesting hatoms

end ReadsForms

theorem readField_forms : ReadsForms readField Field.WrittenAs Field.toJson Field.atoms := by
  intro f depth j h hnesting hatoms
  obtain ⟨depth, rfl, hmembers⟩ := Json.exists_of_nesting_record hnesting
  simp only [List.forall_mem_cons] at hmembers
  obtain ⟨-, -, -, htyNesting, -, hinitialNesting, -⟩ := hmembers
  obtain ⟨hnameAtom, hatoms⟩ := List.forall_mem_cons.1 hatoms
  obtain ⟨htyAtoms, hinitialAtoms⟩ := List.forall_mem_append.1 hatoms
  obtain ⟨vs, hvs, _ | ⟨hid, _ | ⟨hname, _ | ⟨hdeclared, _ | ⟨hty, _ | ⟨hrequiredness,
    _ | ⟨hinitial, _ | _⟩⟩⟩⟩⟩⟩⟩ := exists_members? h fieldKeys rfl (by decide)
  have hid := required_of_value hid (readInt16_toInt f.id)
  have hname := required_of_value hname (readIdentifier_toJson hnameAtom)
  have hdeclared := defaulted_of_value hdeclared id (readString_text f.declared)
  have hty := required_of_value hty
    (readTy_toJson htyNesting (Nat.lt_succ_self depth) htyAtoms)
  have hrequiredness := defaulted_of_value hrequiredness id
    (readRequiredness_toJson f.requiredness depth)
  have hread : ∀ v, f.initial = some v → ∀ j, v.WrittenAs j →
      j ≠ .null ∧ readLiteral (depth + 1) depth j = some v := by
    rintro v hv j rfl
    rw [hv] at hinitialNesting hinitialAtoms
    exact ⟨v.toJson_ne_null,
      readLiteral_toJson hinitialNesting (Nat.lt_succ_self depth) hinitialAtoms⟩
  have hinitial := nullable_of_optional hinitial hread
  simp only [readField, enter, hvs, hid, hname, hdeclared, hty, hrequiredness, hinitial,
    Option.bind_eq_bind, Option.bind_some]

theorem readConstant_forms :
    ReadsForms readConstant Constant.WrittenAs Constant.toJson Constant.atoms := by
  intro c depth j h hnesting hatoms
  obtain ⟨depth, rfl, hmembers⟩ := Json.exists_of_nesting_record hnesting
  simp only [List.forall_mem_cons] at hmembers
  obtain ⟨-, htyNesting, hvalueNesting, -⟩ := hmembers
  obtain ⟨hnameAtom, hatoms⟩ := List.forall_mem_cons.1 hatoms
  obtain ⟨htyAtoms, hvalueAtoms⟩ := List.forall_mem_append.1 hatoms
  obtain ⟨vs, hvs, _ | ⟨hname, _ | ⟨hty, _ | ⟨hvalue, _ | _⟩⟩⟩⟩ :=
    exists_members? h ["name", "field_type", "value"] rfl (by decide)
  have hname := required_of_value hname (readIdentifier_toJson hnameAtom)
  have hty := required_of_value hty
    (readTy_toJson htyNesting (Nat.lt_succ_self depth) htyAtoms)
  have hvalue := required_of_value hvalue
    (readLiteral_toJson hvalueNesting (Nat.lt_succ_self depth) hvalueAtoms)
  simp only [readConstant, enter, hvs, hname, hty, hvalue, Option.bind_eq_bind, Option.bind_some]

theorem readEnumerator_forms :
    ReadsForms readEnumerator Enumerator.WrittenAs Enumerator.toJson Enumerator.atoms := by
  intro m depth j h hnesting hatoms
  obtain ⟨depth, rfl, -⟩ := Json.exists_of_nesting_record hnesting
  obtain ⟨vs, hvs, _ | ⟨hname, _ | ⟨hdeclared, _ | ⟨hvalue, _ | _⟩⟩⟩⟩ :=
    exists_members? h ["name", "original_name", "value"] rfl (by decide)
  have hname := required_of_value hname (readIdentifier_toJson (hatoms _ List.mem_cons_self))
  have hdeclared := defaulted_of_value hdeclared id (readString_text m.declared)
  have hvalue := required_of_value hvalue (readInt32_toInt m.value)
  simp only [readEnumerator, enter, hvs, hname, hdeclared, hvalue, Option.bind_eq_bind,
    Option.bind_some]

theorem readEnumeration_forms :
    ReadsForms readEnumeration Enumeration.WrittenAs Enumeration.toJson Enumeration.atoms := by
  intro e depth j h hnesting hatoms
  obtain ⟨depth, rfl, hmembers⟩ := Json.exists_of_nesting_record hnesting
  simp only [List.forall_mem_cons] at hmembers
  obtain ⟨-, hvaluesNesting, -⟩ := hmembers
  obtain ⟨hnameAtom, hvaluesAtoms⟩ := List.forall_mem_cons.1 hatoms
  obtain ⟨vs, hvs, _ | ⟨hname, _ | ⟨hvalues, _ | _⟩⟩⟩ :=
    exists_members? h ["name", "values"] rfl (by decide)
  have hname := required_of_value hname (readIdentifier_toJson hnameAtom)
  have hvalues := required_of_has hvalues id fun _ hj =>
    readEnumerator_forms.readList hj hvaluesNesting hvaluesAtoms
  simp only [readEnumeration, enter, hvs, hname, hvalues, Option.bind_eq_bind, Option.bind_some]

theorem readRecord_forms :
    ReadsForms readRecord Record.WrittenAs Record.toJson Record.atoms := by
  intro r depth j h hnesting hatoms
  obtain ⟨depth, rfl, hmembers⟩ := Json.exists_of_nesting_record hnesting
  simp only [List.forall_mem_cons] at hmembers
  obtain ⟨-, -, hfieldsNesting, -⟩ := hmembers
  obtain ⟨hnameAtom, hfieldsAtoms⟩ := List.forall_mem_cons.1 hatoms
  obtain ⟨vs, hvs, _ | ⟨hname, _ | ⟨hkind, _ | ⟨hfields, _ | _⟩⟩⟩⟩ :=
    exists_members? h ["name", "kind", "fields"] rfl (by decide)
  have hname := required_of_value hname (readIdentifier_toJson hnameAtom)
  have hkind := defaulted_of_value hkind id (readRecordKind_toJson r.kind depth)
  have hfields := required_of_has hfields id fun _ hj =>
    readField_forms.readList hj hfieldsNesting hfieldsAtoms
  simp only [readRecord, enter, hvs, hname, hkind, hfields, Option.bind_eq_bind, Option.bind_some]

theorem readMethod_forms :
    ReadsForms readMethod Method.WrittenAs Method.toJson Method.atoms := by
  intro m depth j h hnesting hatoms
  obtain ⟨depth, rfl, hmembers⟩ := Json.exists_of_nesting_record hnesting
  simp only [List.forall_mem_cons] at hmembers
  obtain ⟨-, -, hreturnsNesting, hargsNesting, hthrowsNesting, -⟩ := hmembers
  obtain ⟨hnameAtom, hatoms⟩ := List.forall_mem_cons.1 hatoms
  obtain ⟨hreturnsAtoms, hatoms⟩ := List.forall_mem_append.1 hatoms
  obtain ⟨hargsAtoms, hthrowsAtoms⟩ := List.forall_mem_append.1 hatoms
  obtain ⟨vs, hvs, _ | ⟨hname, _ | ⟨hdeclared, _ | ⟨hreturns, _ | ⟨hargs, _ | ⟨hthrows,
    _ | ⟨honeway, _ | _⟩⟩⟩⟩⟩⟩⟩ := exists_members? h methodKeys rfl (by decide)
  have hname := required_of_value hname (readIdentifier_toJson hnameAtom)
  have hdeclared := defaulted_of_value hdeclared id (readString_text m.declared)
  have hreturns := required_of_value hreturns
    (readTy_toJson hreturnsNesting (Nat.lt_succ_self depth) hreturnsAtoms)
  have hargs := readField_forms.items hargs hargsNesting hargsAtoms
  have hthrows := readField_forms.items hthrows hthrowsNesting hthrowsAtoms
  have honeway := defaulted_of_value honeway id (readBool_bool m.oneway)
  simp only [readMethod, enter, hvs, hname, hdeclared, hreturns, hargs, hthrows, honeway,
    Option.bind_eq_bind, Option.bind_some]

theorem readParent_forms :
    ReadsForms readParent Parent.WrittenAs Parent.toJson Parent.atoms := by
  intro p depth j h hnesting hatoms
  obtain ⟨depth, rfl, -⟩ := Json.exists_of_nesting_record hnesting
  obtain ⟨hnameAtom, hscopeAtoms⟩ := List.forall_mem_cons.1 hatoms
  obtain ⟨vs, hvs, _ | ⟨hname, _ | ⟨hscope, _ | _⟩⟩⟩ :=
    exists_members? h ["name", "prefix"] rfl (by decide)
  have hname := required_of_value hname (readIdentifier_toJson hnameAtom)
  have hread : ∀ id, p.scope = some id → ∀ j, id.WrittenAs j →
      j ≠ .null ∧ readIdentifier j = some id := by
    rintro id hid j rfl
    rw [hid] at hscopeAtoms
    exact ⟨Json.noConfusion, readIdentifier_toJson (hscopeAtoms _ List.mem_cons_self)⟩
  have hscope := nullable_of_optional hscope hread
  simp only [readParent, enter, hvs, hname, hscope, Option.bind_eq_bind, Option.bind_some]

theorem readService_forms :
    ReadsForms readService Service.WrittenAs Service.toJson Service.atoms := by
  intro s depth j h hnesting hatoms
  obtain ⟨depth, rfl, hmembers⟩ := Json.exists_of_nesting_record hnesting
  simp only [List.forall_mem_cons] at hmembers
  obtain ⟨-, hparentNesting, hmethodsNesting, -⟩ := hmembers
  obtain ⟨hnameAtom, hatoms⟩ := List.forall_mem_cons.1 hatoms
  obtain ⟨hparentAtoms, hmethodsAtoms⟩ := List.forall_mem_append.1 hatoms
  obtain ⟨vs, hvs, _ | ⟨hname, _ | ⟨hparent, _ | ⟨hmethods, _ | _⟩⟩⟩⟩ :=
    exists_members? h ["name", "parent", "functions"] rfl (by decide)
  have hname := required_of_value hname (readIdentifier_toJson hnameAtom)
  have hread : ∀ p, s.parent = some p → ∀ j, p.WrittenAs j →
      j ≠ .null ∧ readParent depth j = some p := by
    intro p hp j hj
    rw [hp] at hparentNesting hparentAtoms
    exact ⟨hj.ne_null, readParent_forms hj hparentNesting hparentAtoms⟩
  have hparent := nullable_of_optional hparent hread
  have hmethods := readMethod_forms.items hmethods hmethodsNesting hmethodsAtoms
  simp only [readService, enter, hvs, hname, hparent, hmethods, Option.bind_eq_bind,
    Option.bind_some]

theorem readPackage_record {scope : String} {id : Identifier} {j : Json}
    (h : IsRecord [.required "scope" (.text scope), .required "id" id.toJson] j)
    (hatom : (Atom.name id).ReadsBack) (depth : Nat) :
    readPackage (depth + 1) j = some (.package scope id) := by
  obtain ⟨vs, hvs, _ | ⟨hscope, _ | ⟨hid, _ | _⟩⟩⟩ :=
    exists_members? h ["scope", "id"] rfl (by decide)
  have hscope := required_of_value hscope (readString_text scope)
  have hid := required_of_value hid (readIdentifier_toJson hatom)
  simp only [readPackage, enter, hvs, hscope, hid, Option.bind_eq_bind, Option.bind_some]

theorem readInclusion_record {localName : Identifier} {document : Document} {j : Json}
    {read : Nat → Json → Option Document} {depth : Nat}
    (h : IsRecord [.required "prefix" localName.toJson,
      ⟨"document", document.WrittenAs, False⟩] j)
    (hatom : (Atom.name localName).ReadsBack)
    (hread : ∀ j, document.WrittenAs j → read depth j = some document) :
    readInclusion read (depth + 1) j = some ⟨localName, document⟩ := by
  obtain ⟨vs, hvs, _ | ⟨hlocalName, _ | ⟨hdocument, _ | _⟩⟩⟩ :=
    exists_members? h ["prefix", "document"] rfl (by decide)
  have hlocalName := required_of_value hlocalName (readIdentifier_toJson hatom)
  have hdocument := required_of_has hdocument id hread
  simp only [readInclusion, enter, hvs, hlocalName, hdocument, Option.bind_eq_bind,
    Option.bind_some]

theorem isArray_headers {headers : List (Header Document)} {js : List Json}
    (h : Document.HeadersWrittenAs headers js) :
    IsArray Document.HeaderWrittenAs headers (.array js) := by
  refine ⟨js, ?_, rfl⟩
  induction headers generalizing js with
  | nil =>
    cases h
    exact .nil
  | cons header r ih =>
    obtain ⟨j, rest, hheader, hrest, rfl⟩ := h
    exact .cons hheader (ih hrest)

theorem headersToJson_eq_map (headers : List (Header Document)) :
    Document.headersToJson headers = headers.map Document.headerToJson := by
  induction headers with
  | nil => rfl
  | cons header r ih => rw [Document.headersToJson, ih, List.map_cons]

theorem atomsOfHeaders_eq_flatMap (headers : List (Header Document)) :
    Document.atomsOfHeaders headers = headers.flatMap Document.atomsOfHeader := by
  induction headers with
  | nil => rfl
  | cons header r ih => rw [Document.atomsOfHeaders, ih, List.flatMap_cons]

/-- Every form of a document below the limit is read as the document. -/
def ReadsDocuments (limit : Nat) : Prop :=
  ∀ {doc : Document} {depth : Nat} {j : Json}, doc.WrittenAs j → doc.toJson.nesting ≤ depth →
    depth < limit → (∀ a ∈ doc.atoms, a.ReadsBack) → readDocument limit depth j = some doc

theorem readHeader_writtenAs {header : Header Document} {limit depth : Nat} {j : Json}
    (hdocuments : ReadsDocuments limit) (h : Document.HeaderWrittenAs header j)
    (hnesting : (Document.headerToJson header).nesting ≤ depth) (hlimit : depth ≤ limit)
    (hatoms : ∀ a ∈ Document.atomsOfHeader header, a.ReadsBack) :
    readHeader (readDocument limit) depth j = some header := by
  cases header with
  | inclusion localName document =>
    obtain ⟨content, hcontent, rfl⟩ := h
    obtain ⟨hlocalName, hdocument⟩ := List.forall_mem_cons.1 hatoms
    obtain ⟨depth, rfl, hrecord⟩ := Json.exists_of_nesting_choice hnesting
    obtain ⟨depth, rfl, hmembers⟩ := Json.exists_of_nesting_record hrecord
    simp only [List.forall_mem_cons] at hmembers
    have hread : ∀ j, document.WrittenAs j → readDocument limit depth j = some document :=
      fun j hj => hdocuments hj hmembers.2.1 (by omega) hdocument
    exact congrArg (Option.map fun i : Inclusion => Header.inclusion i.localName i.document)
      (readInclusion_record hcontent hlocalName hread)
  | package scope id =>
    obtain ⟨content, hcontent, rfl⟩ := h
    obtain ⟨depth, rfl, hrecord⟩ := Json.exists_of_nesting_choice hnesting
    obtain ⟨depth, rfl, -⟩ := Json.exists_of_nesting_record hrecord
    exact readPackage_record hcontent (hatoms _ List.mem_cons_self) depth

theorem readHeaders_writtenAs {headers : List (Header Document)} {js : List Json}
    {limit depth : Nat} (hdocuments : ReadsDocuments limit)
    (h : Document.HeadersWrittenAs headers js)
    (hnesting : (Json.array (Document.headersToJson headers)).nesting ≤ depth)
    (hlimit : depth ≤ limit) (hatoms : ∀ a ∈ Document.atomsOfHeaders headers, a.ReadsBack) :
    readList (readHeader (readDocument limit)) depth (.array js) = some headers := by
  obtain ⟨depth, rfl, hitems⟩ := Json.exists_of_nesting_array hnesting
  rw [headersToJson_eq_map] at hitems
  rw [atomsOfHeaders_eq_flatMap] at hatoms
  refine readList_of_isArray (isArray_headers h) fun header hmem j hj => ?_
  exact readHeader_writtenAs hdocuments hj (hitems _ (List.mem_map_of_mem hmem)) (by omega)
    fun a ha => hatoms a (List.mem_flatMap.2 ⟨header, hmem, ha⟩)

theorem readsDocuments (limit : Nat) : ReadsDocuments limit := by
  intro doc depth j h hnesting hlimit hatoms
  -- An included document is three levels down and has to stay below the next limit only.
  induction limit generalizing doc depth j with
  | zero => exact absurd hlimit (Nat.not_lt_zero _)
  | succ limit ih =>
    obtain ⟨headers, d⟩ := doc
    obtain ⟨depth, rfl, hmembers⟩ := Json.exists_of_nesting_record hnesting
    simp only [List.forall_mem_cons] at hmembers
    obtain ⟨hheadersNesting, hconstantsNesting, henumerationsNesting, hrecordsNesting,
      hservicesNesting, -⟩ := hmembers
    obtain ⟨hheadersAtoms, hatoms⟩ := List.forall_mem_append.1 hatoms
    obtain ⟨hconstantsAtoms, hatoms⟩ := List.forall_mem_append.1 hatoms
    obtain ⟨henumerationsAtoms, hatoms⟩ := List.forall_mem_append.1 hatoms
    obtain ⟨hrecordsAtoms, hservicesAtoms⟩ := List.forall_mem_append.1 hatoms
    obtain ⟨vs, hvs, _ | ⟨hheaders, _ | ⟨hconstants, _ | ⟨henumerations, _ | ⟨hrecords,
      _ | ⟨hservices, _ | _⟩⟩⟩⟩⟩⟩ := exists_members? h documentKeys rfl (by decide)
    have hread : ∀ j, (∃ js, Document.HeadersWrittenAs headers js ∧ j = .array js) →
        readList (readHeader (readDocument limit)) depth j = some headers := by
      rintro j ⟨js, hjs, rfl⟩
      exact readHeaders_writtenAs ih hjs hheadersNesting (by omega) hheadersAtoms
    have hheaders := defaulted_of_has hheaders id hread
    have hconstants := readConstant_forms.items hconstants hconstantsNesting hconstantsAtoms
    have henumerations :=
      readEnumeration_forms.items henumerations henumerationsNesting henumerationsAtoms
    have hrecords := readRecord_forms.items hrecords hrecordsNesting hrecordsAtoms
    have hservices := readService_forms.items hservices hservicesNesting hservicesAtoms
    simp only [readDocument, enter, hvs, hheaders, hconstants, henumerations, hrecords, hservices,
      Option.bind_eq_bind, Option.bind_some]

/-- The member for the initial value tells none from any other. -/
theorem initial_eq_none_iff {f g : Field} {j : Json} (hf : f.WrittenAs j) (hg : g.WrittenAs j) :
    f.initial = none ↔ g.initial = none := by
  have hone {f : Field} {v : Option Json}
      (h : (Member.optional "default" Literal.WrittenAs f.initial).Has v) :
      f.initial = none ↔ v = none ∨ v = some .null := by
    cases hinitial : f.initial with
    | none =>
      rw [hinitial] at h
      cases v with
      | none => simp
      | some j =>
        cases (h : j = .null)
        simp
    | some value =>
      rw [hinitial] at h
      cases v with
      | none => cases (h : some value = none)
      | some j =>
        cases (h : j = value.toJson)
        simp [value.toJson_ne_null]
  obtain ⟨vs, hvs, _ | ⟨-, _ | ⟨-, _ | ⟨-, _ | ⟨-, _ | ⟨-, _ | ⟨hinitial, _ | _⟩⟩⟩⟩⟩⟩⟩ :=
    exists_members? hf fieldKeys rfl (by decide)
  obtain ⟨ws, hws, _ | ⟨-, _ | ⟨-, _ | ⟨-, _ | ⟨-, _ | ⟨-, _ | ⟨hinitial', _ | _⟩⟩⟩⟩⟩⟩⟩ :=
    exists_members? hg fieldKeys rfl (by decide)
  -- Both look at the same members, so one value stands for both defaults.
  rw [hvs] at hws
  cases hws
  rw [hone hinitial, hone hinitial']

end Reading

/-! ## Documents -/

namespace Document

def identifiers (doc : Document) : List Identifier :=
  doc.atoms.filterMap fun
    | .name id => some id
    | .double _ => none

def doubles (doc : Document) : List Binary64 :=
  doc.atoms.filterMap fun
    | .name _ => none
    | .double d => some d

theorem readsBack_of_mem_atoms {doc : Document}
    (hidentifiers : ∀ id ∈ doc.identifiers, Identifier.parse id.fullName = id)
    (hdoubles : ∀ d ∈ doc.doubles, (Decimal.documentLayout.numeral d).toBinary64? = some d) :
    ∀ a ∈ doc.atoms, a.ReadsBack := by
  intro a ha
  cases a with
  | name id => exact hidentifiers id (List.mem_filterMap.2 ⟨_, ha, rfl⟩)
  | double d => exact hdoubles d (List.mem_filterMap.2 ⟨_, ha, rfl⟩)

theorem ofBytes_of_read? {doc : Document} {text : String} (h : read? text = some doc)
    (path : String) : ofBytes path text.toByteArray = .ok doc := by
  have htext : String.fromUTF8? text.toByteArray = some text := dif_pos text.isValidUTF8
  rw [ofBytes, htext]
  simp only [ofText, h]

theorem read?_render {doc : Document} {j : Json} (h : doc.WrittenAs j)
    (hnesting : doc.toJson.nesting ≤ Reading.maxDepth) (hatoms : ∀ a ∈ doc.atoms, a.ReadsBack) :
    read? j.render = some doc := by
  rw [read?, Json.read?_render (doc.writable_writtenAs j h), Option.bind_some]
  exact Reading.readsDocuments _ h hnesting (Nat.lt_succ_self _) hatoms

/-- A document is loaded from its text, and from every text that leaves out members which hold
their default. Of the doubles it is assumed that their numerals are read back. A field with null
for its default is never taken for one without. -/
theorem load_forms (doc : Document)
    (hidentifiers : ∀ id ∈ doc.identifiers, Identifier.parse id.fullName = id)
    (hfinite : ∀ d ∈ doc.doubles, d.isFinite = true)
    (hprinted : ∀ d ∈ doc.doubles, d.isFinite = true →
      (Decimal.documentLayout.numeral d).toBinary64? = some d)
    (hnesting : doc.toJson.nesting ≤ 127) :
    (∀ path, ofBytes path doc.toJson.render.toByteArray = .ok doc) ∧
    (∀ j, doc.WrittenAs j → ∀ path, ofBytes path j.render.toByteArray = .ok doc) ∧
    ∀ f g : Field, f.initial = some .null → g.initial = none →
      ∀ j, f.WrittenAs j → ¬ g.WrittenAs j := by
  have hatoms := readsBack_of_mem_atoms hidentifiers fun d hd => hprinted d hd (hfinite d hd)
  have hforms : ∀ j, doc.WrittenAs j → ∀ path, ofBytes path j.render.toByteArray = .ok doc :=
    fun j hj => ofBytes_of_read? (read?_render hj hnesting hatoms)
  refine ⟨hforms _ doc.writtenAs_toJson, hforms, fun f g hf hg j hfj hgj => ?_⟩
  have hnone := (Reading.initial_eq_none_iff hfj hgj).2 hg
  rw [hf] at hnone
  cases hnone

/-- An included document, a text with escapes, a double, and null for a default. What is left out:
a declared name, a requiredness, a kind, and all definitions of which there are none. -/
theorem load_forms_note :
    let text : Field := ⟨1, .simple "text", "", .string, .unmarked, some (.string "\x01\n\"é\\")⟩
    let weight : Field := ⟨2, .simple "weight", "w", .list .double, .optional, some .null⟩
    let half : Constant := ⟨.simple "half", .double, .double ⟨0x3fe0000000000000⟩⟩
    let note : Record := ⟨.qualified ["shared", "note"], .struct, [text, weight]⟩
    let base : Document := .mk [] ⟨[half], [], [], []⟩
    let doc : Document := .mk [.inclusion (.simple "base") base,
      .package "java" (.qualified ["com", "notes"])] ⟨[], [], [note], []⟩
    let shortBase : Json := .record [("consts", .array [half.toJson])]
    let short : Json := .record [
      ("headers", .array [
        .choice "include" (.record [("prefix", .text "base"), ("document", shortBase)]),
        .choice "namespace" (.record [("scope", .text "java"), ("id", .text "com.notes")])]),
      ("structs", .array [.record [("name", .text "shared.note"), ("fields", .array [
        .record [("id", .int 1), ("name", .text "text"), ("field_type", .text "string"),
          ("default", .choice "string" (.text "\x01\n\"é\\"))],
        weight.toJson])]])]
    ofBytes "notes.json" doc.toJson.render.toByteArray = .ok doc ∧
    ofBytes "notes.json" short.render.toByteArray = .ok doc ∧
    ∀ j, weight.WrittenAs j → ¬ (Field.mk 2 (.simple "weight") "w" (.list .double) .optional
      none).WrittenAs j := by
  intro text weight half note base doc shortBase short
  obtain ⟨hload, hforms, hnull⟩ := load_forms doc (by decide +kernel) (by decide +kernel)
    (by decide +kernel) (by decide +kernel)
  have hbase : base.WrittenAs shortBase :=
    ⟨_, .absent rfl (.present ⟨_, .cons half.writtenAs_toJson .nil, rfl⟩ (.absent rfl (.absent rfl
      (.absent rfl .nil)))), rfl⟩
  have hinclusion : HeaderWrittenAs (.inclusion (.simple "base") base)
      (.choice "include" (.record [("prefix", .text "base"), ("document", shortBase)])) :=
    ⟨_, ⟨_, .present rfl (.present hbase .nil), rfl⟩, rfl⟩
  have hpackage : HeaderWrittenAs (.package "java" (.qualified ["com", "notes"])) _ :=
    headerWrittenAs_toJson _
  have htext : text.WrittenAs _ :=
    ⟨_, .present rfl (.present rfl (.absent rfl (.present rfl (.absent rfl
      (.present rfl .nil))))), rfl⟩
  have hnote : note.WrittenAs _ :=
    ⟨_, .present rfl (.absent rfl (.present
      ⟨_, .cons htext (.cons weight.writtenAs_toJson .nil), rfl⟩ .nil)), rfl⟩
  have hshort : doc.WrittenAs short :=
    ⟨_, .present ⟨_, ⟨_, _, hinclusion, ⟨_, _, hpackage, rfl, rfl⟩, rfl⟩, rfl⟩
      (.absent rfl (.absent rfl (.present ⟨_, .cons hnote .nil, rfl⟩ (.absent rfl .nil)))), rfl⟩
  exact ⟨hload _, hforms _ hshort _, hnull weight _ rfl rfl⟩

end Document
end StubForge
