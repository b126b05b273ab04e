import StubForge.Proofs.Text.Split
import StubForge.Schema.Loading
import StubForge.Schema.Recasing

/-! The packages of a document that was read: identifiers that were given as dotted texts. -/
namespace StubForge

namespace Identifier

theorem segments_parse (text : String) :
    (parse text).segments = Text.splitString (· == '.') text := by
  rw [parse]
  split
  · rename_i piece hpieces
    obtain ⟨w, hw, rfl⟩ := List.map_eq_singleton_iff.1 hpieces
    rw [hpieces, Text.eq_of_split_eq_singleton hw, String.ofList_toList]
    rfl
  · rfl

theorem segments_parse_ne_nil (text : String) : (parse text).segments ≠ [] := by
  rw [segments_parse, Text.splitString, Ne, List.map_eq_nil_iff]
  exact Text.split_ne_nil _ _

theorem dot_notMem_of_mem_parse {text segment : String} (h : segment ∈ (parse text).segments) :
    '.' ∉ segment.toList := by
  rw [segments_parse, Text.splitString] at h
  obtain ⟨w, hw, rfl⟩ := List.mem_map.1 h
  intro hdot
  rw [String.toList_ofList] at hdot
  exact absurd (Text.mem_of_mem_split hw hdot).2 (by decide)

theorem dot_notMem_name_parse (text : String) : '.' ∉ (parse text).name.toList := by
  rw [name]
  cases hlast : (parse text).segments.getLast? with
  | none => simp
  | some segment => exact dot_notMem_of_mem_parse (List.mem_of_getLast? hlast)

end Identifier

namespace Reading

theorem exists_of_enter {α : Type} {depth : Nat} {read : Nat → Option α} {a : α}
    (h : enter depth read = some a) : ∃ depth, read depth = some a := by
  cases depth with
  | zero => cases h
  | succ depth => exact ⟨depth, h⟩

/-- An identifier that is read is a dotted text. -/
theorem parse_of_required {j : Option Json} {id : Identifier}
    (h : required readIdentifier j = some id) : ∃ text, id = .parse text := by
  obtain ⟨j, -, hj⟩ := Option.bind_eq_some_iff.1 h
  obtain ⟨text, -, rfl⟩ := Option.map_eq_some_iff.1 hj
  exact ⟨text, rfl⟩

theorem readPackage_parse {depth : Nat} {j : Json} {scope : String} {id : Identifier}
    (h : readPackage depth j = some (.package scope id)) : ∃ text, id = .parse text := by
  obtain ⟨depth, h⟩ := exists_of_enter h
  obtain ⟨members, -, h⟩ := Option.bind_eq_some_iff.1 h
  split at h
  · obtain ⟨scope', -, h⟩ := Option.bind_eq_some_iff.1 h
    obtain ⟨id', hid, h⟩ := Option.bind_eq_some_iff.1 h
    cases h
    exact parse_of_required hid
  · cases h

theorem readEnumeration_parse {depth : Nat} {j : Json} {e : Enumeration}
    (h : readEnumeration depth j = some e) : ∃ text, e.name = .parse text := by
  obtain ⟨depth, h⟩ := exists_of_enter h
  obtain ⟨members, -, h⟩ := Option.bind_eq_some_iff.1 h
  split at h
  · obtain ⟨name, hname, h⟩ := Option.bind_eq_some_iff.1 h
    obtain ⟨values, -, h⟩ := Option.bind_eq_some_iff.1 h
    cases h
    exact parse_of_required hname
  · cases h

theorem readRecord_parse {depth : Nat} {j : Json} {r : Record}
    (h : readRecord depth j = some r) : ∃ text, r.name = .parse text := by
  obtain ⟨depth, h⟩ := exists_of_enter h
  obtain ⟨members, -, h⟩ := Option.bind_eq_some_iff.1 h
  split at h
  · obtain ⟨name, hname, h⟩ := Option.bind_eq_some_iff.1 h
    obtain ⟨kind, -, h⟩ := Option.bind_eq_some_iff.1 h
    obtain ⟨fields, -, h⟩ := Option.bind_eq_some_iff.1 h
    cases h
    exact parse_of_required hname
  · cases h

theorem readService_parse {depth : Nat} {j : Json} {s : Service}
    (h : readService depth j = some s) : ∃ text, s.name = .parse text := by
  obtain ⟨depth, h⟩ := exists_of_enter h
  obtain ⟨members, -, h⟩ := Option.bind_eq_some_iff.1 h
  split at h
  · obtain ⟨name, hname, h⟩ := Option.bind_eq_some_iff.1 h
    obtain ⟨parent, -, h⟩ := Option.bind_eq_some_iff.1 h
    obtain ⟨methods, -, h⟩ := Option.bind_eq_some_iff.1 h
    cases h
    exact parse_of_required hname
  · cases h

theorem readHeader_parse {read : Nat → Json → Option Document} {depth : Nat} {j : Json}
    {scope : String} {id : Identifier} (h : readHeader read depth j = some (.package scope id)) :
    ∃ text, id = .parse text := by
  unfold readHeader at h
  split at h
  · obtain ⟨depth, h⟩ := exists_of_enter h
    obtain ⟨inclusion, -, h⟩ := Option.map_eq_some_iff.1 h
    cases h
  · obtain ⟨depth, h⟩ := exists_of_enter h
    exact readPackage_parse h
  · cases h

theorem exists_of_mapM {α β : Type} {f : α → Option β} {xs : List α} {ys : List β}
    (h : xs.mapM f = some ys) {y : β} (hy : y ∈ ys) : ∃ x ∈ xs, f x = some y := by
  induction xs generalizing ys with
  | nil =>
    cases h
    cases hy
  | cons x xs ih =>
    rw [List.mapM_cons] at h
    obtain ⟨z, hz, h⟩ := Option.bind_eq_some_iff.1 h
    obtain ⟨zs, hzs, h⟩ := Option.bind_eq_some_iff.1 h
    cases h
    rcases List.mem_cons.1 hy with rfl | hy
    · exact ⟨x, List.mem_cons_self, hz⟩
    · obtain ⟨w, hw, hwy⟩ := ih hzs hy
      exact ⟨w, List.mem_cons_of_mem x hw, hwy⟩

theorem exists_of_readList {α : Type} {read : Nat → Json → Option α} {depth : Nat} {j : Json}
    {items : List α} (h : readList read depth j = some items) {a : α} (ha : a ∈ items) :
    ∃ depth j, read depth j = some a := by
  unfold readList at h
  split at h
  · obtain ⟨depth, h⟩ := exists_of_enter h
    obtain ⟨item, -, hitem⟩ := exists_of_mapM h ha
    exact ⟨depth, item, hitem⟩
  · cases h

theorem exists_of_defaulted {α : Type} {read : Nat → Json → Option α} {depth : Nat}
    {j : Option Json} {items : List α} (h : defaulted [] (readList read depth) j = some items)
    {a : α} (ha : a ∈ items) : ∃ depth j, read depth j = some a := by
  cases j with
  | none =>
    cases h
    cases ha
  | some j => exact exists_of_readList h ha

/-- What was read as part of a document. -/
structure ReadFrom (limit : Nat) (doc : Document) : Prop where
  headers : ∀ header ∈ doc.headers,
    ∃ depth j, readHeader (readDocument limit) depth j = some header
  enumerations : ∀ e ∈ doc.definitions.enumerations, ∃ depth j, readEnumeration depth j = some e
  records : ∀ r ∈ doc.definitions.records, ∃ depth j, readRecord depth j = some r
  services : ∀ s ∈ doc.definitions.services, ∃ depth j, readService depth j = some s

theorem readFrom_of_readDocument {limit depth : Nat} {j : Json} {doc : Document}
    (h : readDocument limit depth j = some doc) : ∃ limit, ReadFrom limit doc := by
  cases limit with
  | zero => cases h
  | succ limit =>
    obtain ⟨depth, h⟩ := exists_of_enter h
    obtain ⟨members, -, h⟩ := Option.bind_eq_some_iff.1 h
    split at h
    · obtain ⟨headers, hheaders, h⟩ := Option.bind_eq_some_iff.1 h
      obtain ⟨constants, -, h⟩ := Option.bind_eq_some_iff.1 h
      obtain ⟨enumerations, henumerations, h⟩ := Option.bind_eq_some_iff.1 h
      obtain ⟨records, hrecords, h⟩ := Option.bind_eq_some_iff.1 h
      obtain ⟨services, hservices, h⟩ := Option.bind_eq_some_iff.1 h
      cases h
      exact ⟨limit, fun _ => exists_of_defaulted hheaders,
        fun _ => exists_of_defaulted henumerations, fun _ => exists_of_defaulted hrecords,
        fun _ => exists_of_defaulted hservices⟩
    · cases h

end Reading

namespace Document

/-- A document that can come from a file. -/
def Loadable (doc : Document) : Prop := ∃ path bytes, ofBytes path bytes = .ok doc

theorem loadable_of_read? (text : String) {doc : Document} (h : read? text = some doc) :
    doc.Loadable := by
  have htext : String.fromUTF8? text.toByteArray = some text := dif_pos text.isValidUTF8
  refine ⟨"", text.toByteArray, ?_⟩
  simp only [ofBytes, htext, ofText, h]

theorem mem_of_packageIn? {scope : String} {id : Identifier} {headers : List (Header Document)}
    (h : packageIn? scope headers = some id) : .package scope id ∈ headers := by
  induction headers with
  | nil => cases h
  | cons header headers ih =>
    cases header with
    | inclusion localName document => exact List.mem_cons_of_mem _ (ih h)
    | package s i =>
      rw [packageIn?] at h
      split at h
      · rename_i hs
        cases h
        rw [hs]
        exact List.mem_cons_self
      · exact List.mem_cons_of_mem _ (ih h)

theorem Loadable.readFrom {doc : Document} (h : doc.Loadable) :
    ∃ limit, Reading.ReadFrom limit doc := by
  obtain ⟨path, bytes, h⟩ := h
  unfold ofBytes ofText at h
  split at h
  · split at h
    · rename_i hread
      cases h
      obtain ⟨j, -, hj⟩ := Option.bind_eq_some_iff.1 hread
      exact Reading.readFrom_of_readDocument hj
    · cases h
  · cases h

theorem Loadable.parse_of_package? {doc : Document} (h : doc.Loadable) {scope : String}
    {id : Identifier} (hid : doc.package? scope = some id) : ∃ text, id = .parse text := by
  obtain ⟨limit, hread⟩ := h.readFrom
  obtain ⟨depth, j, hj⟩ := hread.headers _ (mem_of_packageIn? hid)
  exact Reading.readHeader_parse hj

/-- The package of a loaded document, declared or not, comes from a dotted text. -/
theorem Loadable.packageFor {doc : Document} (h : doc.Loadable) (d : Dialect) :
    ∃ text, doc.packageFor d = .parse text := by
  unfold Document.packageFor
  cases hid : d.packageScopes.findSome? doc.package? with
  | none => exact ⟨"thrift", rfl⟩
  | some id =>
    obtain ⟨scope, -, hscope⟩ := List.exists_of_findSome?_eq_some hid
    exact h.parse_of_package? hscope

end Document
end StubForge
