import Mathlib.Data.List.Nodup
import StubForge.Proofs.Generation.Recasing
import StubForge.Proofs.Outcome
import StubForge.Proofs.Schema.Reading

/-! References to the types of included documents. Java names the package of the document and Scala
the alias of its import: when that is what the file of the type, or the import, says itself. -/
namespace StubForge

/-! ## Names in a scope -/

namespace Identifier

/-- The name `name` in the scope `scope`. -/
def member (scope : Identifier) (name : String) : Identifier :=
  qualified (scope.segments ++ [name])

/-- An identifier as a text is read: it has segments, and no dot is inside one. -/
structure Dotted (id : Identifier) : Prop where
  ne_nil : id.segments ≠ []
  dot_notMem : ∀ s ∈ id.segments, '.' ∉ s.toList

theorem dotted_parse (text : String) : (parse text).Dotted :=
  ⟨segments_parse_ne_nil text, fun _ hs => dot_notMem_of_mem_parse hs⟩

example : (parse "geo.shared").member "Point" = parse "geo.shared.Point" := by decide +kernel

@[simp] theorem name_member (scope : Identifier) (name : String) :
    (scope.member name).name = name := by simp [member, Identifier.name]

theorem segments_of_ofSegments? {segments : List String} {id : Identifier}
    (h : ofSegments? segments = some id) : id.segments = segments := by
  unfold ofSegments? at h
  split at h <;> cases h <;> rfl

theorem fullName_ofSegments {segments : List String} (h : segments ≠ []) :
    (ofSegments? segments).map fullName = some (".".intercalate segments) := by
  cases segments with
  | nil => exact absurd rfl h
  | cons s r => cases r <;> rfl

theorem fullName_qualifier_member {scope : Identifier} (h : scope.segments ≠ []) (name : String) :
    (scope.member name).qualifier.map fullName = some scope.fullName := by
  rw [member, qualifier, List.dropLast_concat, fullName_ofSegments h, fullName]

theorem mapLast_concat (f : String → String) (xs : List String) (x : String) :
    mapLast f (xs ++ [x]) = xs ++ [f x] := by
  induction xs with
  | nil => rfl
  | cons y ys ih =>
    cases ys with
    | nil => rfl
    | cons z zs => exact congrArg (y :: ·) ih

theorem mapLast_mapLast (f g : String → String) (xs : List String) :
    mapLast f (mapLast g xs) = mapLast (f ∘ g) xs := by
  induction xs with
  | nil => rfl
  | cons x xs ih =>
    cases xs with
    | nil => rfl
    | cons y ys =>
      cases ys with
      | nil => rfl
      | cons z zs => exact congrArg (x :: ·) ih

/-- Casing changes the name and keeps its scope. -/
theorem title_member (scope : Identifier) (name : String) :
    (scope.member name).title = scope.member (simple name).title.name := by
  rw [title, recase, member, mapName, mapLast_concat]
  rfl

end Identifier

/-! ## Escaped names -/

namespace Naming

@[simp] theorem identifier_simple (n : Naming) (name : String) :
    n.identifier (.simple name) = n.dialect.quoteKeyword name :=
  String.intercalate_singleton

theorem namedType_member {n : Naming} {scope : Identifier} (h : scope.segments ≠ [])
    (name : String) :
    n.namedType (scope.member name) = n.dialect.qualify scope.fullName (n.package? scope.fullName)
      (n.dialect.quoteKeyword name) := by
  have hscope := Identifier.fullName_qualifier_member h name
  cases hq : (scope.member name).qualifier with
  | none => simp [hq] at hscope
  | some q =>
    rw [hq, Option.map_some, Option.some.injEq] at hscope
    simp only [namedType, hq, hscope, Identifier.name_member]

end Naming

namespace Dialect

/-- How much longer a keyword gets. -/
def escapeLength : Dialect → Nat
  | scala => 2
  | java => 1

theorem length_quoteKeyword (d : Dialect) (name : String) :
    (d.quoteKeyword name).length =
      name.length + if d.isKeyword name then d.escapeLength else 0 := by
  have hback : "`".length = 1 := rfl
  have hline : "_".length = 1 := rfl
  unfold quoteKeyword
  split
  · cases d with
    | scala =>
      simp only [escape, escapeLength, String.length_append, hback]
      omega
    | java => simp only [escape, escapeLength, String.length_append, hline]
  · rfl

end Dialect

namespace Naming

/-- Keywords among its segments are all that an escaped identifier has more. -/
theorem length_identifier (n : Naming) (id : Identifier) :
    (n.identifier id).length =
      id.fullName.length + id.segments.countP n.dialect.isKeyword * n.dialect.escapeLength := by
  rw [identifier, Identifier.fullName]
  induction id.segments with
  | nil => simp
  | cons s r ih =>
    have hs := n.dialect.length_quoteKeyword s
    rw [List.countP_cons, Nat.add_mul]
    -- Dots stand only between segments, so the last one is a case of its own.
    cases r with
    | nil =>
      simp only [List.map_cons, List.map_nil, String.intercalate_singleton, hs, List.countP_nil]
      split <;> omega
    | cons t r =>
      simp only [List.map_cons, String.intercalate_cons_cons, String.length_append] at ih ⊢
      rw [ih, hs, Dialect.scopeSeparator]
      split <;> omega

/-- An escaped identifier is as long as the identifier exactly if no segment is a keyword. -/
theorem length_identifier_eq_iff (n : Naming) (id : Identifier) :
    (n.identifier id).length = id.fullName.length ↔
      ∀ s ∈ id.segments, n.dialect.isKeyword s = false := by
  have hpos : n.dialect.escapeLength ≠ 0 := by cases n.dialect <;> decide
  rw [n.length_identifier id, Nat.add_eq_left, Nat.mul_eq_zero, or_iff_left hpos,
    List.countP_eq_zero]
  simp only [Bool.not_eq_true]

/-- Escaping leaves an identifier as it is exactly if no segment is a keyword. -/
theorem identifier_eq_fullName_iff (n : Naming) (id : Identifier) :
    n.identifier id = id.fullName ↔ ∀ s ∈ id.segments, n.dialect.isKeyword s = false := by
  constructor
  · intro h
    exact (n.length_identifier_eq_iff id).1 (congrArg String.length h)
  · intro h
    have hmap : id.segments.map n.dialect.quoteKeyword = id.segments := by
      refine (List.map_congr_left fun s hs => ?_).trans (List.map_id _)
      rw [Dialect.quoteKeyword, h s hs, if_neg Bool.false_ne_true, id_eq]
    rw [identifier, hmap, Identifier.fullName, Dialect.scopeSeparator]

end Naming

/-! ## Imports under an alias -/

/-- Texts that part ways at a dot: the first has it where the second is still inside a segment. -/
theorem append_dot_ne {l a b : List Char} (hl : '.' ∉ l) {c : Char} (hc : c ≠ '.') :
    l ++ '.' :: a ≠ c :: (l ++ b) := by
  induction l generalizing c with
  | nil =>
    intro h
    exact hc (List.cons.inj h).1.symm
  | cons d l ih =>
    rw [List.mem_cons, not_or] at hl
    intro h
    obtain ⟨-, htail⟩ := List.cons.inj h
    exact ih hl.2 (Ne.symm hl.1) htail

namespace Naming

variable {n : Naming}

theorem isKeyword_underscore {name : String} (h : name.toList.head? = some '_') :
    n.dialect.isKeyword name = false := by
  rw [Dialect.isKeyword, List.contains_eq_mem, decide_eq_false_iff_not]
  exact Dialect.notMem_keywords (List.mem_of_mem_head? h) rfl (by decide)

/-- The alias of a document whose local name has one segment: that segment between underscores. -/
theorem alias_of_singleton {id : Identifier} {s : String} (hs : id.segments = [s]) :
    n.identifier ((id.prepend "_").append "_") = "_" ++ id.fullName ++ "_" := by
  have hhead : ("_" ++ s ++ "_").toList.head? = some '_' := by simp
  rw [identifier, Identifier.append, Identifier.prepend, Identifier.segments_mapName,
    Identifier.segments_mapName, hs, Identifier.fullName, hs, String.intercalate_singleton]
  simp only [Identifier.mapLast, List.map_cons, List.map_nil, String.intercalate_singleton,
    Dialect.quoteKeyword, isKeyword_underscore hhead, if_neg Bool.false_ne_true]

/-- With several segments the alias starts with the first of them, and the reference with an
underscore. -/
theorem alias_ne_of_cons_cons (hn : n.dialect = .scala) {id : Identifier} {s t : String}
    {r : List String} (hs : id.segments = s :: t :: r) (hdot : '.' ∉ s.toList) :
    n.identifier ((id.prepend "_").append "_") ≠ "_" ++ id.fullName ++ "_" := by
  obtain ⟨u, us, hlast⟩ : ∃ u us, ((id.prepend "_").append "_").segments = s :: u :: us := by
    rw [Identifier.append, Identifier.prepend, Identifier.segments_mapName,
      Identifier.segments_mapName, hs, Identifier.mapLast_mapLast]
    cases r with
    | nil => exact ⟨_, _, rfl⟩
    | cons v vs => exact ⟨_, _, rfl⟩
  intro h
  rw [identifier, hlast, Identifier.fullName, hs] at h
  have hchars := congrArg String.toList h
  have hline : "_".toList = ['_'] := rfl
  have hpoint : ".".toList = ['.'] := rfl
  simp only [List.map_cons, String.intercalate_cons_cons, String.toList_append, List.append_assoc,
    Dialect.scopeSeparator, hline, hpoint] at hchars
  -- An escaped segment starts with a backtick, and a plain one comes to its dot too early.
  cases hkeyword : n.dialect.isKeyword s with
  | true =>
    have hback : "`".toList = ['`'] := rfl
    rw [Dialect.quoteKeyword, hkeyword, if_pos rfl, hn, Dialect.escape, String.toList_append,
      String.toList_append, hback] at hchars
    exact absurd (List.cons.inj hchars).1 (by decide)
  | false =>
    rw [Dialect.quoteKeyword, hkeyword, if_neg Bool.false_ne_true] at hchars
    exact append_dot_ne hdot (by decide) hchars

end Naming

/-- A Scala reference to a type of an included document goes through the alias of the import
exactly if the local name of the document has a single segment. -/
theorem Naming.typeName_eq_alias_iff {n : Naming} (hn : n.dialect = .scala)
    {inclusions : List Inclusion} {i : Inclusion} {k : Nat} (hi : inclusions[k]? = some i)
    (hdotted : i.localName.Dotted) {name : String} {t : Ty}
    (ht : t = .enum (i.localName.member name) ∨ t = .struct (i.localName.member name))
    (mutable : Bool) :
    ∃ entry introduced, (n.imports inclusions)[k]? = some entry ∧
      entry.code? "alias" = some introduced ∧
      (n.typeName t mutable = .ok (introduced ++ "." ++ n.identifier (.simple name)) ↔
        i.localName.segments.length = 1) := by
  refine ⟨n.importEntry i, n.identifier ((i.localName.prepend "_").append "_"), ?_, rfl, ?_⟩
  · rw [imports, List.getElem?_map, hi, Option.map_some]
  have hname : n.typeName t mutable = .ok ("_" ++ i.localName.fullName ++ "_" ++ "." ++
      n.identifier (.simple name)) := by
    have hqualified := n.namedType_member hdotted.ne_nil name
    rw [hn, Dialect.qualify] at hqualified
    rcases ht with rfl | rfl <;>
      simp [typeName, renderType, hqualified, hn, String.append_assoc]
  rw [hname, Except.ok.injEq, eq_comm]
  cases hs : i.localName.segments with
  | nil => exact absurd hs hdotted.ne_nil
  | cons s r =>
    cases r with
    | nil => simp [alias_of_singleton hs]
    | cons t r =>
      have hdot := hdotted.dot_notMem s (hs ▸ List.mem_cons_self)
      simp [alias_ne_of_cons_cons hn hs hdot]

/-- A document that is included as `shared`, by the side of one with a longer local name. -/
theorem Naming.typeName_eq_alias_shared :
    let shared : Inclusion := ⟨.parse "shared", .mk [.package "scala" (.parse "com.shared")]
      ⟨[], [], [⟨.simple "Point", .struct, []⟩], []⟩⟩
    let other : Inclusion := ⟨.parse "geo.shared", .mk [] ⟨[], [], [], []⟩⟩
    let n := Naming.ofInclusions .scala [other, shared]
    shared.localName.Dotted ∧ ∃ entry introduced, (n.imports [other, shared])[1]? = some entry ∧
      entry.code? "alias" = some introduced ∧
      n.typeName (.struct (.parse "shared.Point")) false =
        .ok (introduced ++ "." ++ n.identifier (.simple "Point")) := by
  intro shared other n
  have hdotted : shared.localName.Dotted := Identifier.dotted_parse "shared"
  have hmember : shared.localName.member "Point" = .parse "shared.Point" := by decide +kernel
  have hplace : [other, shared][1]? = some shared := rfl
  obtain ⟨entry, introduced, hentry, hcode, hiff⟩ :=
    typeName_eq_alias_iff (n := n) rfl hplace hdotted (.inr rfl) false
  rw [hmember] at hiff
  have hone : shared.localName.segments.length = 1 := by decide +kernel
  exact ⟨hdotted, entry, introduced, hentry, hcode, hiff.2 hone⟩

/-- The import of a document that is included as `geo.shared` introduces `geo._shared_`, and a
reference to one of its types goes through `_geo.shared_`. -/
theorem Naming.typeName_ne_alias_geo_shared :
    let shared : Inclusion := ⟨.parse "geo.shared", .mk [.package "scala" (.parse "com.shared")]
      ⟨[], [], [⟨.simple "Point", .struct, []⟩], []⟩⟩
    let n := Naming.ofInclusions .scala [shared]
    (n.imports [shared]).map (·.code? "alias") = [some "geo._shared_"] ∧
      n.typeName (.struct (.parse "geo.shared.Point")) false = .ok "_geo.shared_.Point" ∧
      n.typeName (.struct (.parse "geo.shared.Point")) false ≠
        .ok ("geo._shared_" ++ "." ++ n.identifier (.simple "Point")) := by
  intro shared n
  exact ⟨by decide +kernel, by decide +kernel, by decide +kernel⟩

/-! ## Packages -/

theorem Document.inclusions_recase (d : Dialect) (doc : Document) :
    (doc.recase d).inclusions =
      doc.inclusions.map fun i => ⟨i.localName, i.document.recase d⟩ := by
  have hheaders (headers : List (Header Document)) :
      inclusionsOf (recaseHeaders d headers) =
        (inclusionsOf headers).map fun i => ⟨i.localName, i.document.recase d⟩ := by
    induction headers with
    | nil => rfl
    | cons header headers ih =>
      cases header with
      | inclusion localName document => exact congrArg (_ :: ·) ih
      | package scope id => exact ih
  cases doc with
  | mk headers definitions => exact hheaders headers

theorem lookup_of_nodup {β : Type} {xs : List (String × β)} (h : (xs.map (·.1)).Nodup)
    {x : String × β} (hx : x ∈ xs) : xs.lookup x.1 = some x.2 := by
  obtain ⟨before, after, rfl⟩ := List.append_of_mem hx
  refine List.lookup_eq_some_iff.2 ⟨before, after, rfl, fun p hp => bne_iff_ne.2 fun heq => ?_⟩
  rw [List.map_append, List.nodup_append] at h
  exact h.2.2 p.1 (List.mem_map_of_mem hp) x.1 (by simp) heq.symm

/-- Under local names that differ, each included document has its own package in scope. -/
theorem Naming.package?_ofInclusions {inclusions : List Inclusion}
    (h : (inclusions.map (·.localName.fullName)).Nodup) (d : Dialect) {i : Inclusion}
    (hi : i ∈ inclusions) :
    (ofInclusions d inclusions).package? i.localName.fullName = some (i.document.packageFor d) := by
  refine lookup_of_nodup (x := (i.localName.fullName, i.document.packageFor d)) ?_ ?_
  · rw [ofInclusions, List.map_reverse, List.nodup_reverse, List.map_map]
    exact h
  · exact List.mem_reverse.2 (List.mem_map_of_mem hi)

/-- The name of the type that a construct declares. -/
def Construct.typeName? : Construct → Option Identifier
  | enumeration e => some e.name
  | record r => some r.name
  | _ => none

/-- What the file of a type says about itself: its package, and its name. -/
theorem Construct.code?_dictionary {s : Setting} {c : Construct} {id : Identifier}
    (hid : c.typeName? = some id) {dict : Dictionary} (h : c.dictionary s = .ok dict) :
    dict.code? "package" = some (s.naming.identifier s.package) ∧
      (dict.code? "StructName").or (dict.code? "EnumName") = some (s.naming.identifier id) := by
  cases c with
  | enumeration e =>
    cases hid
    cases h
    exact ⟨rfl, rfl⟩
  | record r =>
    cases hid
    obtain ⟨body, hbody, h⟩ := bind_eq_ok.1 h
    obtain ⟨fields, -, hbody⟩ := bind_eq_ok.1 hbody
    cases hbody
    cases h
    exact ⟨rfl, rfl⟩
  | _ => cases hid

theorem Construct.typeName?_recase (d : Dialect) (c : Construct) :
    (c.recase d).typeName? = c.typeName?.map d.typeCase := by cases c <;> rfl

/-- The package is spelled as it was declared, and only the name is escaped. -/
theorem Setting.typeName_member {doc : Document}
    (hdistinct : (doc.inclusions.map (·.localName.fullName)).Nodup) {i : Inclusion}
    (hi : i ∈ doc.inclusions) (hscope : i.localName.segments ≠ []) {name : String} {t : Ty}
    (ht : t = .enum (i.localName.member name) ∨ t = .struct (i.localName.member name))
    (options : ServiceOptions) (mutable : Bool) :
    (ofDocument .java options (doc.recase .java)).naming.typeName (t.recase .java) mutable =
      .ok ((i.document.packageFor .java).fullName ++ "." ++
        Dialect.java.quoteKeyword (Dialect.java.typeCase (.simple name)).name) := by
  let n := (ofDocument .java options (doc.recase .java)).naming
  let inner : Inclusion := ⟨i.localName, i.document.recase .java⟩
  have hinclusions := doc.inclusions_recase .java
  have hmem : inner ∈ (doc.recase .java).inclusions := by
    rw [hinclusions]
    exact List.mem_map_of_mem hi
  have hnodup : ((doc.recase .java).inclusions.map (·.localName.fullName)).Nodup := by
    rw [hinclusions, List.map_map]
    exact hdistinct
  have hpackage : n.package? i.localName.fullName = some (i.document.packageFor .java) := by
    rw [← i.document.packageFor_recase .java]
    exact Naming.package?_ofInclusions hnodup .java hmem
  have hnamed : n.namedType (Dialect.java.typeCase (i.localName.member name)) =
      (i.document.packageFor .java).fullName ++ "." ++
        Dialect.java.quoteKeyword (Dialect.java.typeCase (.simple name)).name := by
    rw [Dialect.typeCase, Identifier.title_member, Naming.namedType_member hscope, hpackage]
    rfl
  rcases ht with rfl | rfl <;> exact congrArg Except.ok hnamed

/-- A Java reference to a type of an included document names the package of its file exactly if no
segment of the package is a keyword: the file escapes such a segment and the reference does not. -/
theorem Construct.typeName_eq_package_iff {doc : Document}
    (hdistinct : (doc.inclusions.map (·.localName.fullName)).Nodup) {i : Inclusion}
    (hi : i ∈ doc.inclusions) (hscope : i.localName.segments ≠ []) {c : Construct} {name : String}
    (hc : c.typeName? = some (.simple name)) {own : ServiceOptions} {dict : Dictionary}
    (hdict : (c.recase .java).dictionary (.ofDocument .java own (i.document.recase .java)) =
      .ok dict) {t : Ty}
    (ht : t = .enum (i.localName.member name) ∨ t = .struct (i.localName.member name))
    (options : ServiceOptions) (mutable : Bool) :
    ∃ package type, dict.code? "package" = some package ∧
      (dict.code? "StructName").or (dict.code? "EnumName") = some type ∧
      ((Setting.ofDocument .java options (doc.recase .java)).naming.typeName (t.recase .java)
          mutable = .ok (package ++ "." ++ type) ↔
        ∀ s ∈ (i.document.packageFor .java).segments, Dialect.java.isKeyword s = false) := by
  have hid := (c.typeName?_recase .java).trans (congrArg (Option.map _) hc)
  obtain ⟨hpackage, htype⟩ := code?_dictionary hid hdict
  refine ⟨_, _, hpackage, htype, ?_⟩
  let n := Naming.ofInclusions .java (i.document.recase .java).inclusions
  have hescape := n.identifier_eq_fullName_iff (i.document.packageFor .java)
  have hsimple : n.identifier (Dialect.java.typeCase (.simple name)) =
      Dialect.java.quoteKeyword (Dialect.java.typeCase (.simple name)).name :=
    n.identifier_simple _
  rw [Setting.typeName_member hdistinct hi hscope ht, Except.ok.injEq, Setting.ofDocument,
    Document.packageFor_recase, hsimple, String.append_left_inj, String.append_left_inj, eq_comm]
  exact hescape

/-- An included document in a package without keywords, and an enum that it declares. -/
theorem Construct.typeName_eq_package_shared :
    let color : Construct := .enumeration ⟨.simple "color", [⟨.simple "red", "red", 1⟩]⟩
    let shared : Document := .mk [.package "java" (.parse "com.shared")]
      ⟨[], [⟨.simple "color", [⟨.simple "red", "red", 1⟩]⟩], [], []⟩
    let doc : Document := .mk [.inclusion (.parse "geo.shared") shared] ⟨[], [], [], []⟩
    ∃ dict package type,
      (color.recase .java).dictionary (.ofDocument .java .none (shared.recase .java)) = .ok dict ∧
      dict.code? "package" = some package ∧
      (dict.code? "StructName").or (dict.code? "EnumName") = some type ∧
      (Setting.ofDocument .java .none (doc.recase .java)).naming.typeName
          ((Ty.enum (.parse "geo.shared.color")).recase .java) false =
        .ok (package ++ "." ++ type) := by
  intro color shared doc
  have hdistinct : (doc.inclusions.map (·.localName.fullName)).Nodup := by decide +kernel
  have hmember : (Identifier.parse "geo.shared").member "color" = .parse "geo.shared.color" := by
    decide +kernel
  have hfree : ∀ s ∈ (shared.packageFor .java).segments, Dialect.java.isKeyword s = false := by
    decide +kernel
  have hdict : (color.recase .java).dictionary (.ofDocument .java .none (shared.recase .java)) =
      .ok (Enumeration.dictionary _ _ _) := rfl
  obtain ⟨package, type, hpackage, htype, hiff⟩ := typeName_eq_package_iff hdistinct
    (i := ⟨.parse "geo.shared", shared⟩) List.mem_cons_self
    (Identifier.segments_parse_ne_nil "geo.shared") (c := color) rfl hdict (.inl rfl) .none false
  rw [hmember] at hiff
  exact ⟨_, package, type, hdict, hpackage, htype, hiff.2 hfree⟩

/-- The file of a type in the package `com.default.shared` is in the package `com.default_.shared`,
and a reference to the type names `com.default.shared`. -/
theorem Construct.typeName_ne_package_default :
    let point : Construct := .record ⟨.simple "Point", .struct, []⟩
    let shared : Document := .mk [.package "java" (.parse "com.default.shared")]
      ⟨[], [], [⟨.simple "Point", .struct, []⟩], []⟩
    let doc : Document := .mk [.inclusion (.parse "shared") shared] ⟨[], [], [], []⟩
    let name := (Setting.ofDocument .java .none (doc.recase .java)).naming.typeName
      ((Ty.struct (.parse "shared.Point")).recase .java) false
    ∃ dict,
      (point.recase .java).dictionary (.ofDocument .java .none (shared.recase .java)) = .ok dict ∧
      dict.code? "package" = some "com.default_.shared" ∧
      dict.code? "StructName" = some "Point" ∧ name = .ok "com.default.shared.Point" ∧
      name ≠ .ok ("com.default_.shared" ++ "." ++ "Point") := by
  intro point shared doc name
  exact ⟨_, rfl, by decide +kernel, by decide +kernel, by decide +kernel, by decide +kernel⟩

end StubForge
