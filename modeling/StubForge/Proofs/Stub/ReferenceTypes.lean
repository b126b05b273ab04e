import StubForge.Proofs.Stub.Unresolved
import StubForge.Proofs.Text.Split

/-! Arguments of generic types. In Java these are reference types on every level: a scalar is boxed,
and an enum or a struct that is called like a primitive is escaped. -/
namespace StubForge

/-- The generic classes with one argument. -/
inductive UnaryClass
  | list
  | arrayList
  | set
  | hashSet
  | optional
  deriving DecidableEq, Repr

/-- The generic classes of a key and a value. -/
inductive BinaryClass
  | map
  | hashMap
  deriving DecidableEq, Repr

def UnaryClass.name : UnaryClass → String
  | list => "List"
  | arrayList => "ArrayList"
  | set => "Set"
  | hashSet => "HashSet"
  | optional => "Optional"

def BinaryClass.name : BinaryClass → String
  | map => "Map"
  | hashMap => "HashMap"

inductive ReferenceType
  | boxed (p : Primitive)
  | named (id : Identifier)
  | unary (c : UnaryClass) (item : ReferenceType)
  | binary (c : BinaryClass) (key value : ReferenceType)
  deriving DecidableEq, Repr

namespace ReferenceType

/-- The class of a scalar. -/
def boxedName : Primitive → String
  | .void => "Void"
  | .bool => "Boolean"
  | .byte => "Byte"
  | .i16 => "Short"
  | .i32 => "Integer"
  | .i64 => "Long"
  | .double => "Double"
  | .string => "String"
  | .binary => "ByteBuffer"

def text (n : Naming) : ReferenceType → String
  | boxed p => boxedName p
  | named id => n.namedType id
  | unary c item => c.name ++ "<" ++ item.text n ++ ">"
  | binary c key value => c.name ++ "<" ++ (key.text n ++ ", " ++ value.text n) ++ ">"

/-- The arguments of generic classes, on all levels. -/
def arguments : ReferenceType → List ReferenceType
  | boxed _ | named _ => []
  | unary _ item => item :: item.arguments
  | binary _ key value => key :: key.arguments ++ value :: value.arguments

/-- The names of enums and structs, from left to right. -/
def identifiers : ReferenceType → List Identifier
  | boxed _ => []
  | named id => [id]
  | unary _ item => item.identifiers
  | binary _ key value => key.identifiers ++ value.identifiers

/-- The words for values that are no objects. -/
def primitiveNames : List String :=
  ["void", "boolean", "byte", "short", "int", "long", "double"]

/-! ## Texts of reference types -/

theorem notMem_primitiveNames {text : String} {c : Char} (hmem : c ∈ text.toList)
    (hc : c.isLower = false) : text ∉ primitiveNames := by
  have hsmall : ∀ p ∈ primitiveNames, p.toList.all (·.isLower) = true := by decide +kernel
  intro hprimitive
  rw [List.all_eq_true.1 (hsmall text hprimitive) c hmem] at hc
  cases hc

theorem boxedName_notMem_primitiveNames (p : Primitive) : boxedName p ∉ primitiveNames := by
  cases p <;> decide +kernel

/-- The words are keywords, so a plain name is escaped, and a qualified one has a dot. -/
theorem namedType_notMem_primitiveNames {n : Naming} (hn : n.dialect = .java) (id : Identifier) :
    n.namedType id ∉ primitiveNames := by
  rw [Naming.namedType, hn]
  cases id.qualifier with
  | some scope =>
    refine notMem_primitiveNames (c := '.') ?_ rfl
    dsimp only [Dialect.qualify]
    cases n.package? scope.fullName <;> simp [String.toList_append]
  | none =>
    have hkeywords : ∀ p ∈ primitiveNames, Dialect.java.isKeyword p = true := by decide +kernel
    intro hmem
    dsimp only [Dialect.quoteKeyword] at hmem
    split at hmem
    · refine notMem_primitiveNames (c := '_') ?_ rfl hmem
      simp [Dialect.escape, String.toList_append]
    · exact absurd (hkeywords _ hmem) ‹_›

theorem text_notMem_primitiveNames {n : Naming} (hn : n.dialect = .java) (r : ReferenceType) :
    r.text n ∉ primitiveNames := by
  cases r with
  | boxed p => exact boxedName_notMem_primitiveNames p
  | named id => exact namedType_notMem_primitiveNames hn id
  | unary c item =>
    refine notMem_primitiveNames (c := '<') ?_ rfl
    simp [text, String.toList_append]
  | binary c key value =>
    refine notMem_primitiveNames (c := '<') ?_ rfl
    simp [text, String.toList_append]

/-! ## Words of a text -/

/-- What stands between the names in the text of a type. -/
def isDelimiter (c : Char) : Bool := c == '<' || c == '>' || c == ',' || c == ' '

/-- Nothing in the text of a name could be read as the end of it. -/
def isWord (text : String) : Bool := text.toList.all (!isDelimiter ·)

def words (text : String) : List String := Text.splitString isDelimiter text

theorem words_of_isWord {text : String} (h : isWord text = true) : words text = [text] := by
  have hdelimiter : ∀ c ∈ text.toList, isDelimiter c = false := by simpa [isWord] using h
  rw [words, Text.splitString, Text.split_of_forall_not hdelimiter, List.map_singleton,
    String.ofList_toList]

theorem words_generic (name inner : String) :
    words (name ++ "<" ++ inner ++ ">") = words name ++ words inner ++ [""] := by
  have htext : (name ++ "<" ++ inner ++ ">").toList =
      name.toList ++ '<' :: (inner.toList ++ '>' :: []) := by
    simp [String.toList_append]
  rw [words, Text.splitString, htext, Text.split_append rfl, Text.split_append rfl, Text.split_nil]
  simp [words, Text.splitString]

theorem words_pair (first second : String) :
    words (first ++ ", " ++ second) = words first ++ [""] ++ words second := by
  have htext : (first ++ ", " ++ second).toList =
      first.toList ++ ',' :: ' ' :: second.toList := by
    simp [String.toList_append]
  rw [words, Text.splitString, htext, Text.split_append rfl, Text.split_cons_of_pos rfl]
  simp [words, Text.splitString]

/-- Read as text, too, a reference type is made of names that are not those of primitives. -/
theorem words_notMem_primitiveNames {n : Naming} (hn : n.dialect = .java) {r : ReferenceType}
    (h : ∀ id ∈ r.identifiers, isWord (n.namedType id) = true) :
    ∀ w ∈ words (r.text n), w ∉ primitiveNames := by
  have hsingle {name : String} (hword : isWord name = true) (hnot : name ∉ primitiveNames) :
      ∀ w ∈ words name, w ∉ primitiveNames := by
    rwa [words_of_isWord hword, List.forall_mem_singleton]
  have hgeneric {name inner : String} (hname : ∀ w ∈ words name, w ∉ primitiveNames)
      (hinner : ∀ w ∈ words inner, w ∉ primitiveNames) :
      ∀ w ∈ words (name ++ "<" ++ inner ++ ">"), w ∉ primitiveNames := by
    rw [words_generic, List.forall_mem_append, List.forall_mem_append, List.forall_mem_singleton]
    exact ⟨⟨hname, hinner⟩, by decide⟩
  induction r with
  | boxed p =>
    have hword : isWord (boxedName p) = true := by cases p <;> decide +kernel
    exact hsingle hword (boxedName_notMem_primitiveNames p)
  | named id =>
    exact hsingle (h id (List.mem_singleton_self id)) (namedType_notMem_primitiveNames hn id)
  | unary c item ih =>
    obtain ⟨hword, hnot⟩ : isWord c.name = true ∧ c.name ∉ primitiveNames := by
      cases c <;> decide +kernel
    exact hgeneric (hsingle hword hnot) (ih h)
  | binary c key value ihk ihv =>
    obtain ⟨hword, hnot⟩ : isWord c.name = true ∧ c.name ∉ primitiveNames := by
      cases c <;> decide +kernel
    rw [identifiers, List.forall_mem_append] at h
    refine hgeneric (hsingle hword hnot) ?_
    rw [words_pair, List.forall_mem_append, List.forall_mem_append, List.forall_mem_singleton]
    exact ⟨⟨ihk h.1, by decide⟩, ihv h.2⟩

/-! ## Reference types of types -/

/-- The reference type for the values of a type, in containers that may change or may not. -/
def ofTy (mutable : Bool) : Ty → ReferenceType
  | .void | .onewayVoid => boxed .void
  | .bool => boxed .bool
  | .byte => boxed .byte
  | .i16 => boxed .i16
  | .i32 => boxed .i32
  | .i64 => boxed .i64
  | .double => boxed .double
  | .string => boxed .string
  | .binary => boxed .binary
  | .enum id | .struct id | .reference id => named id
  | .list item => unary (if mutable then .arrayList else .list) (ofTy mutable item)
  | .set item => unary (if mutable then .hashSet else .set) (ofTy mutable item)
  | .map key value =>
    binary (if mutable then .hashMap else .map) (ofTy mutable key) (ofTy mutable value)

theorem identifiers_ofTy (mutable : Bool) (t : Ty) :
    (ofTy mutable t).identifiers = t.names.filterMap Ty.named? := by
  induction t with
  | list item ih => exact ih
  | set item ih => exact ih
  | map key value ihk ihv =>
    rw [ofTy, identifiers, ihk, ihv, Ty.names, List.filterMap_append]
  | _ => rfl

end ReferenceType

open ReferenceType

theorem Naming.typeArg_eq_text {n : Naming} (hn : n.dialect = .java) (mutable : Bool) {t : Ty}
    (h : t.unresolved = []) : n.typeArg t mutable = .ok ((ofTy mutable t).text n) := by
  have hprimitive (p : Primitive) : n.dialect.primitiveName p true = boxedName p := by
    rw [hn]
    cases p <;> rfl
  rw [typeArg]
  induction t with
  | reference id => cases h
  | enum id => rfl
  | struct id => rfl
  | list item ih =>
    rw [renderType, ih h, hn]
    cases mutable <;> rfl
  | set item ih =>
    rw [renderType, ih h, hn]
    cases mutable <;> rfl
  | map key value ihk ihv =>
    rw [Ty.unresolved_map, List.append_eq_nil_iff] at h
    rw [renderType, ihk h.1, ihv h.2, hn]
    cases mutable <;> rfl
  | _ => exact congrArg Except.ok (hprimitive _)

/-- The arguments of a container are boxed whether or not the container is to be. -/
theorem Naming.typeName_of_isContainer {n : Naming} {t : Ty} (h : t.isContainer = true)
    (mutable : Bool) : n.typeName t mutable = n.typeArg t mutable := by
  cases t with
  | list item => rfl
  | set item => rfl
  | map key value => rfl
  | _ => cases h

/-- In Java a type without references has a text that is a reference type, with the names of the
same enums and structs, wherever one is needed: as an argument, as a container, and as what an
optional field holds. On no level is there an argument with the text of a primitive, nor is one of
the words, unless the text of an enum or a struct is more than a word. -/
theorem Naming.generic_arguments {n : Naming} (hn : n.dialect = .java) {t : Ty}
    (h : t.unresolved = []) (mutable : Bool) :
    ∃ r : ReferenceType, r.identifiers = t.names.filterMap Ty.named? ∧
      n.typeArg t mutable = .ok (r.text n) ∧
      (t.isContainer = true → n.typeName t mutable = .ok (r.text n)) ∧
      (∀ f : Field, f.ty = t → f.isOptional = true →
        n.fieldType f mutable = .ok ((unary .optional r).text n)) ∧
      (∀ a ∈ (unary .optional r).arguments, a.text n ∉ primitiveNames) ∧
      ((∀ id ∈ r.identifiers, isWord (n.namedType id) = true) →
        ∀ w ∈ words ((unary .optional r).text n), w ∉ primitiveNames) := by
  have harg := typeArg_eq_text hn mutable h
  refine ⟨ofTy mutable t, identifiers_ofTy mutable t, harg, fun hcontainer => ?_, ?_,
    fun a _ => text_notMem_primitiveNames hn a, fun hwords => words_notMem_primitiveNames hn hwords⟩
  · rw [typeName_of_isContainer hcontainer, harg]
  · rintro f rfl hoptional
    rw [fieldType, if_pos hoptional, harg, hn]
    rfl

/-- A map from integers to lists of a struct that is called like a primitive. -/
theorem Naming.generic_arguments_int :
    let n : Naming := ⟨.java, []⟩
    let t : Ty := .map .i32 (.list (.struct (.simple "int")))
    ∃ r : ReferenceType, r.identifiers = [.simple "int"] ∧
      r.text n = "Map<Integer, List<int_>>" ∧ n.typeName t false = .ok (r.text n) ∧
      (∀ a ∈ r.arguments, a.text n ∉ primitiveNames) ∧
      ∀ w ∈ words ("Optional<" ++ r.text n ++ ">"), w ∉ primitiveNames := by
  intro n t
  have hresolved : t.unresolved = [] := by decide
  obtain ⟨r, hidentifiers, harg, hname, -, harguments, hwords⟩ :=
    generic_arguments (n := n) rfl hresolved false
  have htext : n.typeArg t false = .ok "Map<Integer, List<int_>>" := by decide +kernel
  have hidentifiers : r.identifiers = [.simple "int"] := hidentifiers
  have hword : ∀ id ∈ r.identifiers, isWord (n.namedType id) = true := by
    rw [hidentifiers]
    decide +kernel
  refine ⟨r, hidentifiers, Except.ok.inj (harg.symm.trans htext), hname rfl, fun a ha => ?_,
    hwords hword⟩
  exact harguments a (List.mem_cons_of_mem _ ha)

end StubForge
