import StubForge.Generation.Construct
import StubForge.Proofs.Text.Casing

/-! Constructs in the casing of a dialect, and what casing leaves alone: the package of a document,
and that a name has no slash in it. -/
namespace StubForge

def Construct.recase (d : Dialect) : Construct → Construct
  | constants items => constants (items.map (·.recase d))
  | enumeration e => enumeration (e.recase d)
  | record r => record (r.recase d)
  | service s => service (s.recase d)

theorem Definitions.constructs_recase (d : Dialect) (ds : Definitions) :
    (ds.recase d).constructs = ds.constructs.map (·.recase d) := by
  cases h : ds.constants <;>
    simp [constructs, recase, Construct.recase, h, Function.comp_def]

theorem Document.definitions_recase (d : Dialect) (doc : Document) :
    (doc.recase d).definitions = doc.definitions.recase d := by cases doc; rfl

/-- The constructs of a document change one by one. -/
theorem Document.constructs_recase (d : Dialect) (doc : Document) :
    (doc.recase d).definitions.constructs = doc.definitions.constructs.map (·.recase d) := by
  rw [definitions_recase, Definitions.constructs_recase]

theorem Document.packageIn?_recase (d : Dialect) (scope : String)
    (headers : List (Header Document)) :
    packageIn? scope (recaseHeaders d headers) = packageIn? scope headers := by
  induction headers with
  | nil => rfl
  | cons header headers ih =>
    cases header with
    | inclusion localName document => exact ih
    | package s id => rw [recaseHeaders, recaseHeader, packageIn?, packageIn?, ih]

theorem Document.packageFor_recase (d : Dialect) (doc : Document) :
    (doc.recase d).packageFor d = doc.packageFor d := by
  have hpackage : (doc.recase d).package? = doc.package? := by
    funext scope
    cases doc with
    | mk headers definitions => exact packageIn?_recase d scope headers
  rw [packageFor, packageFor, hpackage]

/-! ## Signs -/

theorem Identifier.getLast?_mapLast (f : String → String) (xs : List String) :
    (mapLast f xs).getLast? = xs.getLast?.map f := by
  induction xs with
  | nil => rfl
  | cons x xs ih =>
    cases xs with
    | nil => rfl
    | cons y ys =>
      rw [mapLast, List.getLast?_cons, ih, List.getLast?_cons_cons, List.getLast?_cons]
      rfl

theorem Dialect.name_typeCase (d : Dialect) (id : Identifier) :
    (d.typeCase id).name = String.ofList (Text.titleCase id.name.toList) := by
  rw [typeCase, Identifier.title, Identifier.recase, Identifier.name, Identifier.segments_mapName,
    Identifier.getLast?_mapLast, Identifier.name]
  cases id.segments.getLast? <;> rfl

theorem Dialect.sign_mem_typeCase {d : Dialect} {id : Identifier} {c : Char}
    (hc : Text.isSign c = true) (h : c ∈ (d.typeCase id).name.toList) : c ∈ id.name.toList := by
  rw [name_typeCase, String.toList_ofList] at h
  exact Text.sign_mem_titleCase hc h

theorem Construct.sign_mem_stem {d : Dialect} {k : Construct} {c : Char}
    (hc : Text.isSign c = true) (h : c ∈ (k.recase d).stem.toList) : c ∈ k.stem.toList := by
  cases k with
  | constants items => exact h
  | enumeration e => exact d.sign_mem_typeCase hc h
  | record r => exact d.sign_mem_typeCase hc h
  | service s => exact d.sign_mem_typeCase hc h

/-- A construct starts with a slash in any casing, or in none. -/
theorem Construct.head?_stem_recase (d : Dialect) (k : Construct) :
    (k.recase d).stem.toList.head? = some '/' ↔ k.stem.toList.head? = some '/' := by
  have hname (id : Identifier) :
      (d.typeCase id).name.toList.head? = some '/' ↔ id.name.toList.head? = some '/' := by
    rw [d.name_typeCase, String.toList_ofList]
    exact Text.head?_titleCase (by decide) (by decide) _
  cases k with
  | constants items => exact Iff.rfl
  | enumeration e => exact hname e.name
  | record r => exact hname r.name
  | service s => exact hname s.name

end StubForge
