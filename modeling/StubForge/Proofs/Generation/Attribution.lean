import StubForge.Proofs.Generation.Recasing
import StubForge.Proofs.Generation.Rendering
import StubForge.Proofs.Stub.Unresolved

/-! What makes a run fail before anything is written, and what its fault says: the first construct
with a reference in it, the first reference of that construct, and the mapping that met it. -/
namespace StubForge

namespace Construct

/-- The types that a construct mentions, in the order in which they are mapped. -/
def types : Construct → List Ty
  | constants items => items.map (·.ty)
  | enumeration _ => []
  | record r => r.fields.map (·.ty)
  | service s => s.methods.flatMap Method.types

/-- The mapping that meets the first reference in a type: the wire tag of a field whose whole type
is the reference, and else a name. -/
def mapping : Construct → Ty → Mapping
  | record _, .reference _ => .wireTag
  | _, _ => .typeName

theorem mapping_record (r : Record) (t : Ty) : (record r).mapping t = t.fieldMapping := by
  cases t <;> rfl

theorem fault?_dictionary (s : Setting) (c : Construct) :
    fault? (c.dictionary s) = c.types.findSome? fun t => t.fault? (c.mapping t) := by
  cases c with
  | constants items => exact fault?_constantsDictionary ..
  | enumeration e => rfl
  | record r =>
    rw [dictionary, Record.fault?_dictionary, types, List.findSome?_map]
    simp only [mapping_record, Function.comp_def]
  | service v => exact Service.fault?_dictionary ..

theorem types_recase (d : Dialect) (c : Construct) :
    (c.recase d).types = c.types.map (·.recase d) := by
  cases c with
  | constants items => simp [recase, types, Constant.recase]
  | enumeration e => rfl
  | record r => simp [recase, types, Record.recase, Field.recase]
  | service s =>
    have hmethod (m : Method) : (m.recase d).types = m.types.map (·.recase d) := by
      simp [Method.recase, Method.types, Field.recase, Function.comp_def]
    simp [recase, types, Service.recase, hmethod, List.flatMap_map, List.map_flatMap]

/-- Casing neither makes nor resolves a reference. -/
theorem exists_unresolved_recase (d : Dialect) (c : Construct) :
    (∃ t ∈ (c.recase d).types, t.unresolved ≠ []) ↔ ∃ t ∈ c.types, t.unresolved ≠ [] := by
  simp [types_recase, Ty.unresolved_recase]

end Construct

theorem Plan.fault_renderAll (s : Setting) (directory : Path) (cs : List Construct) :
    (renderAll s directory cs).2 = cs.findSome? fun c => fault? (c.render s) := by
  induction cs with
  | nil => rfl
  | cons c cs ih =>
    rw [renderAll, List.findSome?_cons]
    cases c.render s with
    | error fault => rfl
    | ok text => exact ih

theorem Plan.fault_ofDocument (d : Dialect) (root : Path) (options : ServiceOptions)
    (doc : Document) :
    (ofDocument d root options doc).fault =
      (doc.recase d).definitions.constructs.findSome? fun k =>
        (k.types.findSome? fun t => t.fault? (k.mapping t)).map (·.within d.name k.stem) := by
  obtain ⟨header, hheader⟩ := exists_header d
  simp only [ofDocument, hheader, fault_renderAll, Construct.fault?_render,
    Construct.fault?_dictionary]
  rfl

/-- A dry run fails exactly if a reference occurs in the document itself, at any depth in a type of
a constant, a field or a method. Its fault then names the first construct that has one, and the
first reference of the first type there that has one; all names are in the casing of the
dialect. -/
theorem generate_dryRun_fault (c : Config) (fs : FileSystem) (doc : Document) :
    ((∃ fault, (generate { c with dryRun := true } fs doc).2 = .error fault) ↔
      ∃ k ∈ doc.definitions.constructs, ∃ t ∈ k.types, t.unresolved ≠ []) ∧
    ∀ fault, (generate { c with dryRun := true } fs doc).2 = .error fault →
      ∃ before k after resolved t others id rest,
        (doc.recase c.dialect).definitions.constructs = before ++ k :: after ∧
        (∀ b ∈ before, ∀ u ∈ b.types, u.unresolved = []) ∧
        k.types = resolved ++ t :: others ∧ (∀ u ∈ resolved, u.unresolved = []) ∧
        t.unresolved = id :: rest ∧
        fault = .unmapped (k.mapping t) ("unresolved reference " ++ id.fullName) (some k.stem)
          (some c.dialect.name) := by
  have hplan : (generate { c with dryRun := true } fs doc).2 = (c.plan doc).outcome :=
    congrArg (·.2) (generate_dryRun rfl fs doc)
  have herror (fault : Fault) : (generate { c with dryRun := true } fs doc).2 = .error fault ↔
      (c.plan doc).fault = some fault := by
    rw [hplan, Plan.outcome]
    cases (c.plan doc).fault <;> simp
  simp only [herror, Config.plan, Plan.fault_ofDocument]
  refine ⟨?_, fun fault hfault => ?_⟩
  · have hsome (m : Mapping) (t : Ty) : (t.fault? m).isSome ↔ t.unresolved ≠ [] := by
      rw [Ne, ← Ty.fault?_eq_none, Option.isSome_iff_ne_none]
    rw [← Option.isSome_iff_exists, List.findSome?_isSome_iff, Document.constructs_recase]
    simp only [Option.isSome_map, List.findSome?_isSome_iff, hsome, List.mem_map,
      exists_exists_and_eq_and, Construct.exists_unresolved_recase]
  · obtain ⟨before, k, after, hcs, hk, hbefore⟩ := List.findSome?_eq_some_iff.1 hfault
    obtain ⟨met, hmet, rfl⟩ := Option.map_eq_some_iff.1 hk
    obtain ⟨resolved, t, others, hts, ht, hresolved⟩ := List.findSome?_eq_some_iff.1 hmet
    obtain ⟨id, hid, rfl⟩ := Option.map_eq_some_iff.1 ht
    obtain ⟨rest, hrest⟩ := List.head?_eq_some_iff.1 hid
    refine ⟨before, k, after, resolved, t, others, id, rest, hcs, fun b hb u hu => ?_, hts,
      fun u hu => Ty.fault?_eq_none.1 (hresolved u hu), hrest, rfl⟩
    have hnone := Option.map_eq_none_iff.1 (hbefore b hb)
    exact Ty.fault?_eq_none.1 (List.findSome?_eq_none_iff.1 hnone u hu)

end StubForge
