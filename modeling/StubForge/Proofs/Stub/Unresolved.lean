import StubForge.Proofs.Outcome
import StubForge.Stub.Constants
import StubForge.Stub.Services

/-! References that were not resolved are the only types without a mapping. For every dictionary:
which reference makes it fail, and which mapping meets it. -/
namespace StubForge

/-- The references inside a type, from left to right and those of a key before those of its
value. -/
def Ty.unresolved (t : Ty) : List Identifier :=
  t.names.filterMap fun
    | .reference id => some id
    | _ => none

namespace Ty

/-- The fault of a mapping at the first reference inside a type. -/
def fault? (mapping : Mapping) (t : Ty) : Option Fault :=
  t.unresolved.head?.map fun id =>
    .unmapped mapping ("unresolved reference " ++ id.fullName) none none

theorem fault?_eq_none {mapping : Mapping} {t : Ty} :
    t.fault? mapping = none ↔ t.unresolved = [] := by simp [fault?]

@[simp] theorem unresolved_reference (id : Identifier) : (reference id).unresolved = [id] := rfl

@[simp] theorem unresolved_list (t : Ty) : (list t).unresolved = t.unresolved := rfl

@[simp] theorem unresolved_set (t : Ty) : (set t).unresolved = t.unresolved := rfl

@[simp] theorem unresolved_map (k v : Ty) :
    (map k v).unresolved = k.unresolved ++ v.unresolved := List.filterMap_append

theorem fault?_map (mapping : Mapping) (k v : Ty) :
    (map k v).fault? mapping = (k.fault? mapping).or (v.fault? mapping) := by
  rw [fault?, unresolved_map, List.head?_append, fault?, fault?]
  cases k.unresolved.head? <;> rfl

theorem unresolved_recase (d : Dialect) (t : Ty) :
    (t.recase d).unresolved = t.unresolved.map d.typeCase := by
  induction t with
  | list t ih => exact ih
  | set t ih => exact ih
  | map k v ihk ihv => simp [recase, ihk, ihv]
  | _ => rfl

end Ty

/-! ## Types -/

/-- A type has no name exactly if there is a reference in it, and the first is to blame. -/
theorem Naming.fault?_renderType (n : Naming) (mutable boxed : Bool) (t : Ty) :
    fault? (n.renderType mutable boxed t) = t.fault? .typeName := by
  induction t generalizing boxed with
  | list t ih =>
    rw [renderType, fault?_bind fun _ _ => fault?_ok _, ih, Option.or_none]
    rfl
  | set t ih =>
    rw [renderType, fault?_bind fun _ _ => fault?_ok _, ih, Option.or_none]
    rfl
  | map k v ihk ihv =>
    have hv (key : String) : fault? (n.renderType mutable true v >>= fun value =>
        .ok (n.dialect.containerType .map [key, value] mutable)) = v.fault? .typeName := by
      rw [fault?_bind fun _ _ => fault?_ok _, ihv, Option.or_none]
    rw [renderType, fault?_bind fun key _ => hv key, ihk, Ty.fault?_map]
  | _ => rfl

theorem Naming.fault?_fieldType (n : Naming) (f : Field) (mutable : Bool) :
    fault? (n.fieldType f mutable) = f.ty.fault? .typeName := by
  unfold fieldType
  split
  · rw [fault?_map, typeArg, fault?_renderType]
  · rw [typeName, fault?_renderType]

theorem Naming.fault?_zeroValue {n : Naming} {t : Ty} (mutable : Bool) (h : t.unresolved = []) :
    fault? (n.zeroValue t mutable) = none := by
  have hempty (kind : Container) : fault? (n.emptyContainer kind t mutable) = none := by
    rw [emptyContainer, fault?_map, typeName, fault?_renderType, Ty.fault?_eq_none.2 h]
  cases t with
  | list t => exact hempty .list
  | set t => exact hempty .set
  | map k v => exact hempty .map
  | reference id => simp at h
  | _ => rfl

theorem Naming.fault?_fieldInitial {n : Naming} {f : Field} (h : f.ty.unresolved = []) :
    fault? (n.fieldInitial? f) = none := by
  unfold fieldInitial?
  split
  · rfl
  · split
    · rfl
    · split
      · rw [fault?_map, fault?_zeroValue false h]
      · rfl

/-! ## Fields -/

/-- The mapping that meets the first reference in the type of a field: a reference that is the
whole type has no wire tag, and one inside a container has no name. -/
def Ty.fieldMapping : Ty → Mapping
  | reference _ => .wireTag
  | _ => .typeName

theorem Field.fault?_methodEntries (f : Field) : fault? f.methodEntries = none := by
  unfold methodEntries Ty.hasProtocolMethod Ty.readMethod Ty.writeMethod
  cases f.ty.scalarName? <;> rfl

theorem Ty.exists_wireTag {t : Ty} (h : ∀ id, t ≠ .reference id) : ∃ tag, t.wireTag = .ok tag := by
  cases t with
  | reference id => exact absurd rfl (h id)
  | _ => exact ⟨_, rfl⟩

theorem Field.exists_dictionary {n : Naming} {f : Field} (h : f.ty.unresolved = []) (index : Nat) :
    ∃ d, f.dictionary n index = .ok d := by
  have hnone : f.ty.fault? .typeName = none := Ty.fault?_eq_none.2 h
  have hname (mutable boxed : Bool) : ∃ name, n.renderType mutable boxed f.ty = .ok name :=
    fault?_eq_none.1 ((n.fault?_renderType mutable boxed f.ty).trans hnone)
  have htag : ∀ id, f.ty ≠ .reference id := by
    intro id hid
    simp [hid] at h
  obtain ⟨tag, ht⟩ := Ty.exists_wireTag htag
  obtain ⟨type, htype⟩ := fault?_eq_none.1 ((n.fault?_fieldType f false).trans hnone)
  obtain ⟨plain, hplain⟩ := hname false false
  obtain ⟨boxed, hboxed⟩ := hname false true
  obtain ⟨zero, hzero⟩ := fault?_eq_none.1 (Naming.fault?_zeroValue (n := n) false h)
  obtain ⟨initial, hinitial⟩ := fault?_eq_none.1 (Naming.fault?_fieldInitial (n := n) h)
  obtain ⟨methods, hmethods⟩ := fault?_eq_none.1 f.fault?_methodEntries
  simp [dictionary, Naming.typeName, Naming.typeArg, Naming.readInitial, bind_eq_ok, ht, htype,
    hplain, hboxed, hzero, hinitial, hmethods]

/-- Once a field has a wire tag and a type, nothing else about it can fail. -/
theorem Field.fault?_dictionary (n : Naming) (index : Nat) (f : Field) :
    fault? (f.dictionary n index) = f.ty.fault? f.ty.fieldMapping := by
  by_cases href : ∃ id, f.ty = .reference id
  · obtain ⟨id, hid⟩ := href
    simp only [dictionary, hid]
    rfl
  · have hnot : ∀ id, f.ty ≠ .reference id := fun id hid => href ⟨id, hid⟩
    have hmapping : f.ty.fieldMapping = .typeName := by
      unfold Ty.fieldMapping
      split
      · exact absurd ‹_› (hnot _)
      · rfl
    cases hu : f.ty.unresolved with
    | nil => rw [fault?_eq_none.2 (exists_dictionary hu index), Ty.fault?_eq_none.2 hu]
    | cons id rest =>
      obtain ⟨tag, htag⟩ := Ty.exists_wireTag hnot
      have htype := Naming.fault?_fieldType n f false
      rw [hmapping]
      simp only [dictionary, htag]
      cases hf : n.fieldType f false with
      | ok type => simp [hf, Ty.fault?, hu] at htype
      | error fault => simpa [hf, bind, Except.bind] using htype

theorem Field.fault?_dictionaries (n : Naming) (index : Nat) (fs : List Field) :
    fault? (dictionaries n index fs) = fs.findSome? fun f => f.ty.fault? f.ty.fieldMapping := by
  induction fs generalizing index with
  | nil => rfl
  | cons f fs ih =>
    have htail (d : Dictionary) : fault? (dictionaries n (index + 1) fs >>= fun ds =>
        .ok (d :: ds)) = fs.findSome? fun f => f.ty.fault? f.ty.fieldMapping := by
      rw [fault?_bind fun _ _ => fault?_ok _, ih, Option.or_none]
    rw [dictionaries, fault?_bind fun d _ => htail d, fault?_dictionary, List.findSome?_cons]
    cases f.ty.fault? f.ty.fieldMapping <;> rfl

theorem Field.fault?_parameters (n : Naming) (fs : List Field) :
    fault? (fs.mapM (·.parameter n)) = (fs.map (·.ty)).findSome? (Ty.fault? .typeName) := by
  rw [fault?_mapM, List.findSome?_map]
  congr 1
  funext f
  rw [parameter, fault?_bind fun _ _ => fault?_ok _, Option.or_none, Naming.fault?_fieldType]
  rfl

/-! ## Constructs -/

theorem fault?_constantsDictionary (n : Naming) (package : Identifier)
    (inclusions : List Inclusion) (items : List Constant) :
    fault? (constantsDictionary n package inclusions items) =
      (items.map (·.ty)).findSome? (Ty.fault? .typeName) := by
  rw [constantsDictionary, fault?_bind fun _ _ => fault?_ok _, Option.or_none, fault?_mapM,
    List.findSome?_map]
  congr 1
  funext c
  rw [Constant.dictionary, fault?_bind fun _ _ => fault?_ok _, Option.or_none, Naming.typeName,
    Naming.fault?_renderType]
  rfl

theorem Record.fault?_body (n : Naming) (r : Record) :
    fault? (r.body n) = r.fields.findSome? fun f => f.ty.fault? f.ty.fieldMapping := by
  rw [body, fault?_bind fun _ _ => fault?_ok _, Option.or_none, Field.fault?_dictionaries]

theorem Record.fault?_dictionary (n : Naming) (package : Identifier)
    (inclusions : List Inclusion) (options : ServiceOptions) (r : Record) :
    fault? (r.dictionary n package inclusions options) =
      r.fields.findSome? fun f => f.ty.fault? f.ty.fieldMapping := by
  rw [dictionary, fault?_bind fun _ _ => fault?_ok _, Option.or_none, fault?_body]

/-- The types of a method in the order in which they are written: those of its arguments, of its
exceptions and of its value. -/
def Method.types (m : Method) : List Ty := m.args.map (·.ty) ++ m.throws.map (·.ty) ++ [m.returns]

theorem Method.fault?_dictionary (n : Naming) (m : Method) :
    fault? (m.dictionary n) = m.types.findSome? (Ty.fault? .typeName) := by
  have hreturns : fault? (n.typeName m.returns false) = m.returns.fault? .typeName :=
    n.fault?_renderType _ _ _
  have harg : fault? (n.typeArg m.returns false) = m.returns.fault? .typeName :=
    n.fault?_renderType _ _ _
  rw [dictionary, fault?_bind fun _ _ => fault?_bind fun _ _ => fault?_bind fun _ _ =>
    fault?_bind fun _ _ => fault?_ok _, Field.fault?_parameters, Field.fault?_parameters,
    hreturns, harg, types, List.findSome?_append, List.findSome?_append, List.findSome?_singleton,
    Option.or_none, Option.or_self, Option.or_assoc]

/-- The structs that go with a method have no types but those of the method. -/
theorem Method.types_records {m : Method} {r : Record} (hr : r ∈ m.records) {f : Field}
    (hf : f ∈ r.fields) : f.ty ∈ m.types := by
  have hargs : ∀ g ∈ m.args, g.ty ∈ m.types := fun g hg => by simp [types, List.mem_map_of_mem hg]
  have hthrows : ∀ g ∈ m.throws, g.ty ∈ m.types := fun g hg => by
    simp [types, List.mem_map_of_mem hg]
  have hreturns : m.returns ∈ m.types := by simp [types]
  rcases eq_of_mem_records hr with rfl | rfl
  · exact hargs f hf
  · exact forall_mem_resultFields (P := fun f => f.ty ∈ m.types) hreturns hthrows f hf

/-- The methods come before their structs, so it is always a name that is missing. -/
theorem Service.fault?_dictionary (n : Naming) (package : Identifier)
    (inclusions : List Inclusion) (options : ServiceOptions) (s : Service) :
    fault? (s.dictionary n package inclusions options) =
      (s.methods.flatMap Method.types).findSome? (Ty.fault? .typeName) := by
  have hmethods : fault? (s.methods.mapM (·.dictionary n)) =
      (s.methods.flatMap Method.types).findSome? (Ty.fault? .typeName) := by
    simp only [fault?_mapM, findSome?_flatMap, Method.fault?_dictionary]
  rw [dictionary, fault?_bind fun ds hds => ?_, hmethods, Option.or_none]
  have hnone : (s.methods.flatMap Method.types).findSome? (Ty.fault? .typeName) = none := by
    rw [← hmethods, hds, fault?_ok]
  rw [fault?_bind fun _ _ => fault?_ok _, Option.or_none, fault?_mapM]
  refine List.findSome?_eq_none_iff.2 fun r hr => ?_
  obtain ⟨m, hm, hrm⟩ := List.mem_flatMap.1 hr
  rw [Record.fault?_body]
  refine List.findSome?_eq_none_iff.2 fun f hf => ?_
  have hty : f.ty ∈ s.methods.flatMap Method.types :=
    List.mem_flatMap.2 ⟨m, hm, Method.types_records hrm hf⟩
  exact Ty.fault?_eq_none.2 (Ty.fault?_eq_none.1 (List.findSome?_eq_none_iff.1 hnone f.ty hty))

end StubForge
