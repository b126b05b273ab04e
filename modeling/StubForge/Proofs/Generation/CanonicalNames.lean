import StubForge.Proofs.Schema.PlainNames

/-! The one form that an identifier has for its text. What is read from a text has it, and no casing
and no prefix or suffix without a dot takes it away; such an identifier is what its scope and its
last segment make of it, and so are the entries of an import. -/
namespace StubForge
namespace Identifier

/-! ## Canonical form -/

/-- A single segment is simple and several are qualified, and there is no dot inside a segment. -/
structure Canonical (id : Identifier) : Prop where
  form : ofSegments? id.segments = some id
  dot_notMem : ∀ s ∈ id.segments, '.' ∉ s.toList

theorem ofSegments?_parse (text : String) : ofSegments? (parse text).segments = some (parse text) := by
  unfold parse
  split
  · rfl
  · rename_i segments hnot
    have hne : Text.splitString (· == '.') text ≠ [] := by
      rw [← segments_parse]
      exact segments_parse_ne_nil text
    rw [segments_qualified]
    unfold ofSegments?
    split
    · rename_i hnil
      exact absurd hnil hne
    · rename_i name hone
      exact absurd hone (hnot name)
    · rfl

theorem canonical_parse (text : String) : (parse text).Canonical :=
  ⟨ofSegments?_parse text, fun _ hs => dot_notMem_of_mem_parse hs⟩

/-- Reading loses nothing of a text. -/
theorem fullName_parse (text : String) : (parse text).fullName = text := by
  have hdot : ".".toList = ['.'] := rfl
  rw [← String.toList_inj, fullName, String.toList_intercalate, segments_parse, Text.splitString,
    List.map_map, hdot, Text.split_beq]
  have hmap : (text.toList.splitOn '.').map (String.toList ∘ String.ofList) =
      text.toList.splitOn '.' := by
    refine (List.map_congr_left fun w _ => ?_).trans (List.map_id _)
    exact String.toList_ofList
  rw [hmap, List.intercalate_splitOn]

namespace Canonical

variable {id : Identifier} (h : id.Canonical)
include h

theorem ne_nil : id.segments ≠ [] := by
  intro hnil
  have hform := h.form
  rw [hnil] at hform
  cases hform

/-- The text of an identifier is read as the identifier. -/
theorem parse_fullName : parse id.fullName = id := by
  -- as no segment has a dot in it, the text has only those that join the segments
  have hdot : ".".toList = ['.'] := rfl
  have hsplit : ((['.'].intercalate (id.segments.map String.toList)).splitOn '.') =
      id.segments.map String.toList := by
    refine List.splitOn_intercalate '.' (List.forall_mem_map.2 h.dot_notMem) ?_
    exact fun hnil => h.ne_nil (List.map_eq_nil_iff.1 hnil)
  have hsegments : (parse id.fullName).segments = id.segments := by
    rw [segments_parse, Text.splitString, fullName, String.toList_intercalate, hdot,
      Text.split_beq, hsplit, List.map_map]
    refine (List.map_congr_left fun s _ => ?_).trans (List.map_id _)
    exact String.ofList_toList
  have hform := ofSegments?_parse id.fullName
  rw [hsegments, h.form] at hform
  exact (Option.some.inj hform).symm

theorem mapName {f : String → String} (hf : ∀ s, '.' ∉ s.toList → '.' ∉ (f s).toList) :
    (id.mapName f).Canonical := by
  constructor
  · have hform := h.form
    cases id with
    | simple name => rfl
    | qualified segments =>
      rcases segments with _ | ⟨s, _ | ⟨t, r⟩⟩
      · cases hform
      · cases hform
      · cases r <;> rfl
  · intro t ht
    rw [segments_mapName] at ht
    obtain ⟨s, hs, rfl | rfl⟩ := exists_of_mem_mapLast ht
    · exact h.dot_notMem _ hs
    · exact hf s (h.dot_notMem s hs)

/-- The segments are those of the scope and the last one. -/
theorem segments_eq : id.segments = id.qualifier.elim [] segments ++ [id.name] := by
  have hform := h.form
  cases id with
  | simple name => rfl
  | qualified segments =>
    rcases segments with _ | ⟨s, _ | ⟨t, r⟩⟩
    · cases hform
    · cases hform
    · have hne : s :: t :: r ≠ [] := List.cons_ne_nil s _
      obtain ⟨scope, hscope⟩ : ∃ scope, ofSegments? (s :: t :: r).dropLast = some scope := by
        cases r <;> exact ⟨_, rfl⟩
      rw [qualifier, hscope, Option.elim_some, segments_of_ofSegments? hscope, name,
        segments_qualified, List.getLast?_eq_some_getLast hne, Option.getD_some,
        List.dropLast_append_getLast]

end Canonical

/-! ## Edits -/

/-- What can be done to the last segment of an identifier. -/
inductive Edit
  | title
  | camel
  | upper
  | lower
  | prepend (before : String)
  | append (after : String)
  deriving DecidableEq, Repr

def Edit.apply : Edit → Identifier → Identifier
  | title, id => id.title
  | camel, id => id.camel
  | upper, id => id.upper
  | lower, id => id.lower
  | prepend before, id => id.prepend before
  | append after, id => id.append after

/-- The identifier after one edit after the other. -/
def edited (id : Identifier) (edits : List Edit) : Identifier :=
  edits.foldl (fun id e => e.apply id) id

namespace Edit

/-- What is put before or after the name has no dot in it. -/
def DotFree : Edit → Prop
  | prepend text | append text => '.' ∉ text.toList
  | title | camel | upper | lower => True

instance : DecidablePred DotFree
  | prepend text | append text => inferInstanceAs (Decidable ('.' ∉ text.toList))
  | title | camel | upper | lower => .isTrue trivial

/-- The change of the last segment. -/
def change : Edit → String → String
  | title, s => String.ofList (Text.titleCase s.toList)
  | camel, s => String.ofList (Text.camelCase s.toList)
  | upper, s => String.ofList (Text.shoutCase s.toList)
  | lower, s => String.ofList (Text.snakeCase s.toList)
  | prepend before, s => before ++ s
  | append after, s => s ++ after

theorem apply_eq_mapName (e : Edit) (id : Identifier) : e.apply id = id.mapName e.change := by
  cases e <;> rfl

/-- No edit brings a dot into a segment. -/
theorem dot_notMem_change {e : Edit} (he : e.DotFree) {s : String} (hs : '.' ∉ s.toList) :
    '.' ∉ (e.change s).toList := by
  have hsign : Text.isSign '.' = true := by decide
  have hline : '.' ≠ '_' := by decide
  cases e with
  | title =>
    rw [change, String.toList_ofList]
    exact fun hdot => hs (Text.sign_mem_titleCase hsign hdot)
  | camel =>
    rw [change, String.toList_ofList]
    exact fun hdot => hs (Text.sign_mem_camelCase hsign hdot)
  | upper =>
    rw [change, String.toList_ofList]
    exact fun hdot => hs (Text.sign_mem_shoutCase hsign hline hdot)
  | lower =>
    rw [change, String.toList_ofList]
    exact fun hdot => hs (Text.sign_mem_snakeCase hsign hline hdot)
  | prepend before =>
    rw [change, String.toList_append, List.mem_append]
    exact fun hdot => hdot.elim he hs
  | append after =>
    rw [change, String.toList_append, List.mem_append]
    exact fun hdot => hdot.elim hs he

end Edit

theorem length_mapLast (f : String → String) (xs : List String) :
    (mapLast f xs).length = xs.length := by
  rcases List.eq_nil_or_concat xs with rfl | ⟨front, last, rfl⟩
  · rfl
  · simp [mapLast_concat]

theorem dropLast_mapLast (f : String → String) (xs : List String) :
    (mapLast f xs).dropLast = xs.dropLast := by
  rcases List.eq_nil_or_concat xs with rfl | ⟨front, last, rfl⟩
  · rfl
  · simp [mapLast_concat]

theorem qualifier_mapName (f : String → String) (id : Identifier) :
    (id.mapName f).qualifier = id.qualifier := by
  cases id with
  | simple name => rfl
  | qualified segments => rw [mapName, qualifier, dropLast_mapLast, qualifier]

/-- Canonical, with as many segments as `start` and in its scope. -/
structure VariantOf (start id : Identifier) : Prop where
  canonical : id.Canonical
  length : id.segments.length = start.segments.length
  qualifier : id.qualifier = start.qualifier

theorem VariantOf.apply {start id : Identifier} (h : VariantOf start id) {e : Edit}
    (he : e.DotFree) : VariantOf start (e.apply id) := by
  rw [e.apply_eq_mapName]
  constructor
  · exact h.canonical.mapName fun s hs => Edit.dot_notMem_change he hs
  · rw [segments_mapName, length_mapLast, h.length]
  · rw [qualifier_mapName, h.qualifier]

theorem VariantOf.edited {start id : Identifier} (h : VariantOf start id) {edits : List Edit}
    (hedits : ∀ e ∈ edits, e.DotFree) : VariantOf start (id.edited edits) := by
  induction edits generalizing id with
  | nil => exact h
  | cons e edits ih =>
    obtain ⟨he, hrest⟩ := List.forall_mem_cons.1 hedits
    exact ih (h.apply he) hrest

end Identifier

/-! ## Imports -/

namespace Naming

/-- The text of a qualified package is that of its scope, a dot, and its last segment. -/
theorem identifier_eq_append (n : Naming) {id scope : Identifier} (h : id.Canonical)
    (hscope : id.qualifier = some scope) :
    n.identifier id = n.identifier scope ++ "." ++ n.identifier id.leaf := by
  have hsegments := h.segments_eq
  rw [hscope, Option.elim_some] at hsegments
  have hne : scope.segments ≠ [] := by
    cases id with
    | simple name => cases hscope
    | qualified segments =>
      intro hnil
      rw [Identifier.segments_of_ofSegments? hscope] at hnil
      rw [Identifier.qualifier, hnil] at hscope
      cases hscope
  rw [identifier, hsegments, List.map_append, String.intercalate_append_of_ne_nil]
  · rfl
  · exact fun hnil => hne (List.map_eq_nil_iff.1 hnil)
  · exact List.cons_ne_nil _ _

/-- An import has the package in two parts that a dot joins. -/
theorem importEntry_package (n : Naming) {i : Inclusion} {id scope : Identifier}
    (hid : i.document.packageFor n.dialect = id) (h : id.Canonical)
    (hscope : id.qualifier = some scope) :
    ∃ above last, (n.importEntry i).code? "parent_package" = some above ∧
      (n.importEntry i).code? "sub_package" = some last ∧
      (n.importEntry i).code? "namespace" = some (above ++ "." ++ last) := by
  refine ⟨n.identifier scope, n.identifier id.leaf, ?_, ?_, ?_⟩
  · simp only [importEntry, hid, hscope]
    rfl
  · simp only [importEntry, hid, hscope]
    rfl
  · rw [← n.identifier_eq_append h hscope]
    simp only [importEntry, hid]
    rfl

end Naming

/-- An identifier has the text that it was read from. However it is cased, and whatever without a dot
is put before or after its name, it stays the one that its text is read as, in the scope that it had;
and it is what this scope and its last segment make. So where the package of an included document is
qualified, the import has its text in two parts around a dot. -/
theorem Identifier.canonical_edited :
    (∀ text, (parse text).fullName = text) ∧
    ∀ (text : String) (edits : List Edit), (∀ e ∈ edits, e.DotFree) →
      let start := parse text
      let id := start.edited edits
      parse id.fullName = id ∧ id.segments.length = start.segments.length ∧
      id.qualifier = start.qualifier ∧
      ofSegments? (id.qualifier.elim [] segments ++ id.leaf.segments) = some id ∧
      ∀ (n : Naming) (inclusions : List Inclusion) (k : Nat) (i : Inclusion),
        inclusions[k]? = some i → i.document.packageFor n.dialect = id →
        ∀ scope, id.qualifier = some scope →
        ∃ entry above last, (n.imports inclusions)[k]? = some entry ∧
          entry.code? "parent_package" = some above ∧ entry.code? "sub_package" = some last ∧
          entry.code? "namespace" = some (above ++ "." ++ last) := by
  refine ⟨fullName_parse, ?_⟩
  intro text edits hedits start id
  have h : VariantOf start id := VariantOf.edited ⟨canonical_parse text, rfl, rfl⟩ hedits
  have hrebuilt : ofSegments? (id.qualifier.elim [] segments ++ id.leaf.segments) = some id := by
    rw [leaf, segments_simple, ← h.canonical.segments_eq, h.canonical.form]
  refine ⟨h.canonical.parse_fullName, h.length, h.qualifier, hrebuilt, ?_⟩
  intro n inclusions k i hi hid scope hscope
  obtain ⟨above, last, hentry⟩ := n.importEntry_package hid h.canonical hscope
  refine ⟨n.importEntry i, above, last, ?_, hentry⟩
  rw [Naming.imports, List.getElem?_map, hi, Option.map_some]

/-- A package read from a text, its last segment put in title case with something before and after,
and the import of a document that is in this package. -/
theorem Identifier.canonical_edited_points :
    let start := parse "com.example..shared_points"
    let id := start.edited [.title, .prepend "x_", .append "_2D", .camel]
    let n : Naming := ⟨.java, []⟩
    let i : Inclusion := ⟨.simple "geo", .mk [.package "java" id] ⟨[], [], [], []⟩⟩
    id.fullName = "com.example..xSharedPoints2d" ∧ parse id.fullName = id ∧
      id.qualifier = some (.qualified ["com", "example", ""]) ∧
      ∃ entry above last, (n.imports [i])[0]? = some entry ∧
        entry.code? "parent_package" = some above ∧ entry.code? "sub_package" = some last ∧
        entry.code? "namespace" = some (above ++ "." ++ last) := by
  intro start id n i
  have hname : id.fullName = "com.example..xSharedPoints2d" := by decide +kernel
  have hscope : id.qualifier = some (.qualified ["com", "example", ""]) := by decide +kernel
  have hedits : ∀ e ∈ [Edit.title, .prepend "x_", .append "_2D", .camel], e.DotFree := by decide
  obtain ⟨hparse, -, -, -, himports⟩ :=
    canonical_edited.2 "com.example..shared_points" _ hedits
  have hpackage : i.document.packageFor n.dialect = id := by decide +kernel
  exact ⟨hname, hparse, hscope, himports n [i] 0 i rfl hpackage _ hscope⟩

end StubForge
