import StubForge.Proofs.Generation.Attribution
import StubForge.Proofs.Generation.Nesting
import StubForge.Proofs.Stub.Signatures
import StubForge.Proofs.Template.Choice

/-! How the value of a field travels: what reads it, what writes it, and the tag under which its struct
announces it. -/
namespace StubForge
open Template Dictionary

/-! ## Codecs -/

/-- What moves the value of a field: two methods of the protocol for a scalar, those of an integer for
an enum, those of its own class for a struct, and the library for a container. -/
inductive Codec
  | scalar (name : String)
  | enum (type : String)
  | struct (type : String)
  | container (kind : Container) (items : List String)
  deriving DecidableEq, Repr

namespace Codec

/-- What the methods of the protocol, `read` and `write` before a name, have on the wire. -/
def methodTags : List (String × WireTag) := [
  ("Bool", .bool), ("Byte", .byte), ("I16", .i16), ("I32", .i32), ("I64", .i64),
  ("Double", .double), ("String", .string), ("Binary", .string)]

def containerTag : Container → WireTag
  | .list => .list
  | .set => .set
  | .map => .map

/-- The tag of what a codec reads and writes. -/
def tag? : Codec → Option WireTag
  | scalar name => methodTags.lookup name
  | enum _ => methodTags.lookup "I32"
  | struct _ => some .struct
  | container kind _ => some (containerTag kind)

/-- The key under which the templates have the alternative of a codec. -/
def key : Codec → String
  | scalar _ => "read_method"
  | enum _ => "is_enum"
  | struct _ => "is_struct"
  | container _ _ => "is_container"

def keys : List String := ["read_method", "is_enum", "is_struct", "is_container"]

def isEnum (codec : Codec) : Bool := codec matches enum _

def isStruct (codec : Codec) : Bool := codec matches struct _

def isContainer (codec : Codec) : Bool := codec matches container _ _

def scalarName? : Codec → Option String
  | scalar name => some name
  | _ => none

/-- The type that the text of a codec mentions. -/
def type? (d : Dialect) : Codec → Option String
  | scalar _ => none
  | enum type | struct type => some type
  | container kind items => some (d.containerType kind items false)

/-- The expression that reads a value. -/
def reading (d : Dialect) (codec : Codec) : String :=
  match d, codec with
  | .scala, scalar name => "_iprot." ++ ("read" ++ name) ++ "()"
  | .scala, enum type => type ++ "(_iprot.readI32())"
  | .scala, struct type => type ++ ".decode(_iprot)"
  | .scala, container kind items =>
    "Codec.read[" ++ d.containerType kind items false ++ "](_iprot)"
  | .java, scalar name => "iprot." ++ ("read" ++ name) ++ "()"
  | .java, enum type => type ++ ".findByValue(iprot.readI32())"
  | .java, struct type => type ++ ".decode(iprot)"
  | .java, container kind items =>
    "Codec.<" ++ d.containerType kind items false ++ ">read(iprot)"

/-- The statement that writes a value. -/
def writing (d : Dialect) (codec : Codec) : String :=
  match d, codec with
  | .scala, scalar name => "      _oprot." ++ ("write" ++ name) ++ "(_value)\n"
  | .scala, enum _ => "      _oprot.writeI32(_value.value)\n"
  | .scala, struct _ => "      _value.write(_oprot)\n"
  | .scala, container kind items =>
    "      Codec.write[" ++ d.containerType kind items false ++ "](_oprot, _value)\n"
  | .java, scalar name => "      oprot." ++ ("write" ++ name) ++ "(value);\n"
  | .java, enum _ => "      oprot.writeI32(value.getValue());\n"
  | .java, struct _ => "      value.write(oprot);\n"
  | .java, container _ _ => "      Codec.write(oprot, value);\n"

end Codec

/-! ## Alternatives of the templates -/

namespace Dialect

/-- The template of the expression that reads a field. -/
def readTemplate : Dialect → String
  | scala => "field_codec"
  | java => "field_read"

def readSections : Dialect → List (String × List Node)
  | scala => [
    ("read_method", [.text "_iprot.", .value "read_method", .text "()"]),
    ("is_enum", [.value "primitive_field_type", .text "(_iprot.readI32())"]),
    ("is_struct", [.value "primitive_field_type", .text ".decode(_iprot)"]),
    ("is_container", [.text "Codec.read[", .value "primitive_field_type", .text "](_iprot)"])]
  | java => [
    ("read_method", [.text "iprot.", .value "read_method", .text "()"]),
    ("is_enum", [.value "primitive_field_type", .text ".findByValue(iprot.readI32())"]),
    ("is_struct", [.value "primitive_field_type", .text ".decode(iprot)"]),
    ("is_container", [.text "Codec.<", .value "boxed_field_type", .text ">read(iprot)"])]

def writeSections : Dialect → List (String × List Node)
  | scala => [
    ("read_method", [.text "      _oprot.", .value "write_method", .text "(_value)\n"]),
    ("is_enum", [.text "      _oprot.writeI32(_value.value)\n"]),
    ("is_struct", [.text "      _value.write(_oprot)\n"]),
    ("is_container", [
      .text "      Codec.write[", .value "primitive_field_type", .text "](_oprot, _value)\n"])]
  | java => [
    ("read_method", [.text "      oprot.", .value "write_method", .text "(value);\n"]),
    ("is_enum", [.text "      oprot.writeI32(value.getValue());\n"]),
    ("is_struct", [.text "      value.write(oprot);\n"]),
    ("is_container", [.text "      Codec.write(oprot, value);\n"])]

theorem find?_readTemplate (d : Dialect) : d.templates.find? d.readTemplate =
    some (d.readSections.map fun s => .when s.1 s.2) := by cases d <;> rfl

theorem find?_fieldWrite (d : Dialect) : d.templates.find? "field_write" =
    some (d.writeSections.map fun s => .when s.1 s.2) := by cases d <;> rfl

theorem keys_readSections (d : Dialect) : d.readSections.map (·.1) = Codec.keys := by
  cases d <;> rfl

theorem keys_writeSections (d : Dialect) : d.writeSections.map (·.1) = Codec.keys := by
  cases d <;> rfl

end Dialect

/-- What is found in the scopes of a field that has the codec. -/
structure Codec.Found (d : Dialect) (scopes : List Dictionary) (codec : Codec) : Prop where
  isEnum : resolve scopes "is_enum" = some (.flag codec.isEnum)
  isStruct : resolve scopes "is_struct" = some (.flag codec.isStruct)
  isContainer : resolve scopes "is_container" = some (.flag codec.isContainer)
  read : resolve scopes "read_method" = codec.scalarName?.map fun name => .code ("read" ++ name)
  write : resolve scopes "write_method" = codec.scalarName?.map fun name => .code ("write" ++ name)
  type : ∀ type, codec.type? d = some type →
    resolve scopes "primitive_field_type" = some (.code type) ∧
      resolve scopes "boxed_field_type" = some (.code type)

namespace Codec.Found

variable {d : Dialect} {scopes : List Dictionary} {codec : Codec} (h : codec.Found d scopes)
include h

theorem holds_iff : ∀ key ∈ keys, holds (resolve scopes key) = true ↔ key = codec.key := by
  rw [keys, List.forall_mem_cons, List.forall_mem_cons, List.forall_mem_cons,
    List.forall_mem_singleton, h.read, h.isEnum, h.isStruct, h.isContainer]
  cases codec <;>
    simp [scalarName?, Codec.isEnum, Codec.isStruct, Codec.isContainer, holds, Codec.key]

/-- The chosen section is rendered once, in the scopes of the field. -/
theorem renderNode_key (insert : String → Renderer) (template : String) (children : List Node) :
    renderNode insert template scopes (.when codec.key children) =
      renderNodes insert template scopes children := by
  cases codec with
  | scalar name => exact renderNode_when_code h.read (by simp) children
  | enum type => exact renderNode_when_flag h.isEnum children
  | struct type => exact renderNode_when_flag h.isStruct children
  | container kind items => exact renderNode_when_flag h.isContainer children

/-- A template with one section for each kind of codec has the text of that of the field. -/
theorem chooses {set : TemplateSet} {name text : String} {sections : List (String × List Node)}
    (hkeys : sections.map (·.1) = keys)
    (hfind : set.find? name = some (sections.map fun s => .when s.1 s.2)) {children : List Node}
    (hmem : (codec.key, children) ∈ sections)
    (htext : ∀ insert : String → Renderer,
      renderNodes insert name scopes children = .ok text) :
    set.Chooses name keys scopes codec.key text := by
  have hkey : codec.key ∈ keys := hkeys ▸ List.mem_map_of_mem hmem
  refine ⟨⟨sections, hkeys, hfind⟩, h.holds_iff, hkey, fun limit source => ?_⟩
  have hothers : ∀ s ∈ sections, s.1 ≠ codec.key → holds (resolve scopes s.1) = false := by
    intro s hs hne
    have hs : s.1 ∈ keys := hkeys ▸ List.mem_map_of_mem hs
    exact Bool.eq_false_iff.2 fun hholds => hne ((h.holds_iff s.1 hs).1 hholds)
  have hnodup : (sections.map (·.1)).Nodup := by
    rw [hkeys]
    decide
  rw [TemplateSet.renderWithin, hfind]
  exact (renderNodes_chosen hnodup hothers hmem).trans
    ((h.renderNode_key _ _ children).trans (htext _))

theorem reads : d.templates.Chooses d.readTemplate keys scopes codec.key (codec.reading d) := by
  have hchooses {children : List Node} (hmem : (codec.key, children) ∈ d.readSections)
      (htext : ∀ insert : String → Renderer,
        renderNodes insert d.readTemplate scopes children = .ok (codec.reading d)) :=
    h.chooses d.keys_readSections d.find?_readTemplate hmem htext
  cases codec with
  | scalar name =>
    have hread := h.read
    cases d <;> refine hchooses (.head _) fun insert => ?_ <;>
      simp [renderNodes, renderNode_text, renderNode_value hread, bind, Except.bind, reading,
        String.append_assoc]
  | enum type =>
    have htype := (h.type type rfl).1
    cases d <;> refine hchooses (.tail _ (.head _)) fun insert => ?_ <;>
      simp [renderNodes, renderNode_text, renderNode_value htype, bind, Except.bind, reading]
  | struct type =>
    have htype := (h.type type rfl).1
    cases d <;> refine hchooses (.tail _ (.tail _ (.head _))) fun insert => ?_ <;>
      simp [renderNodes, renderNode_text, renderNode_value htype, bind, Except.bind, reading]
  | container kind items =>
    obtain ⟨hplain, hboxed⟩ := h.type _ rfl
    cases d <;> refine hchooses (.tail _ (.tail _ (.tail _ (.head _)))) fun insert => ?_ <;>
      simp [renderNodes, renderNode_text, renderNode_value hplain, renderNode_value hboxed, bind,
        Except.bind, reading, String.append_assoc]

theorem writes : d.templates.Chooses "field_write" keys scopes codec.key (codec.writing d) := by
  have hchooses {children : List Node} (hmem : (codec.key, children) ∈ d.writeSections)
      (htext : ∀ insert : String → Renderer,
        renderNodes insert "field_write" scopes children = .ok (codec.writing d)) :=
    h.chooses d.keys_writeSections d.find?_fieldWrite hmem htext
  unfold writing at hchooses ⊢
  cases codec with
  | scalar name =>
    have hwrite := h.write
    cases d <;> refine hchooses (.head _) fun insert => ?_ <;>
      simp [renderNodes, renderNode_text, renderNode_value hwrite, bind, Except.bind,
        String.append_assoc]
  | enum type =>
    cases d <;> refine hchooses (.tail _ (.head _)) fun insert => ?_ <;>
      rw [renderNodes_singleton, renderNode_text]
  | struct type =>
    cases d <;> refine hchooses (.tail _ (.tail _ (.head _))) fun insert => ?_ <;>
      rw [renderNodes_singleton, renderNode_text]
  | container kind items =>
    have hplain := (h.type _ rfl).1
    cases d <;> refine hchooses (.tail _ (.tail _ (.tail _ (.head _)))) fun insert => ?_ <;>
      simp [renderNodes, renderNode_text, renderNode_value hplain, bind, Except.bind,
        String.append_assoc]

end Codec.Found

/-! ## Fields -/

def Ty.isEnum (t : Ty) : Bool := t matches enum _

def Ty.isStruct (t : Ty) : Bool := t matches struct _

/-- What a field says about the way in which its value travels. -/
structure Field.Travels (n : Naming) (f : Field) (d : Dictionary) : Prop where
  tag : ∃ tag, f.ty.wireTag = .ok tag ∧ d.get? "wire_tag" = some (.code tag.name)
  plain : ∃ plain, n.typeName f.ty false = .ok plain ∧
    d.get? "primitive_field_type" = some (.code plain)
  boxed : ∃ boxed, n.typeArg f.ty false = .ok boxed ∧
    d.get? "boxed_field_type" = some (.code boxed)
  isEnum : d.get? "is_enum" = some (.flag f.ty.isEnum)
  isStruct : d.get? "is_struct" = some (.flag f.ty.isStruct)
  isContainer : d.get? "is_container" = some (.flag f.ty.isContainer)
  read : d.get? "read_method" = f.ty.scalarName?.map fun name => .code ("read" ++ name)
  write : d.get? "write_method" = f.ty.scalarName?.map fun name => .code ("write" ++ name)

theorem Field.get?_methodEntries {f : Field} {methods : Dictionary}
    (h : f.methodEntries = .ok methods) :
    methods.get? "read_method" = (f.ty.scalarName?.map fun name => .code ("read" ++ name)) ∧
      methods.get? "write_method" = f.ty.scalarName?.map fun name => .code ("write" ++ name) := by
  unfold methodEntries Ty.hasProtocolMethod Ty.readMethod Ty.writeMethod at h
  cases hname : f.ty.scalarName? with
  | none =>
    rw [hname] at h
    cases h
    exact ⟨rfl, rfl⟩
  | some name =>
    rw [hname] at h
    cases h
    exact ⟨rfl, rfl⟩

theorem Field.HasItem.travels {n : Naming} {f : Field} {item : Dictionary} (h : f.HasItem n item) :
    f.Travels n item := by
  obtain ⟨index, d, h, hmark⟩ := h
  have hget (key : String) (hkey : key ≠ "first" ∧ key ≠ "last") : item.get? key = d.get? key :=
    hmark key hkey.1 hkey.2
  simp only [dictionary, bind_eq_ok] at h
  obtain ⟨tag, htag, type, -, plain, hplain, boxed, hboxed, zero, -, initial, -, methods, hmethods,
    h⟩ := h
  cases h
  obtain ⟨hread, hwrite⟩ := get?_methodEntries hmethods
  constructor
  · exact ⟨tag, htag, hget _ (by decide)⟩
  · exact ⟨plain, hplain, hget _ (by decide)⟩
  · exact ⟨boxed, hboxed, hget _ (by decide)⟩
  · exact hget _ (by decide)
  · exact hget _ (by decide)
  · exact hget _ (by decide)
  · rw [hget _ (by decide), get?_append, hread]
    cases initial <;> rfl
  · rw [hget _ (by decide), get?_append, hwrite]
    cases initial <;> rfl

/-! ## Codecs of types -/

/-- The codec of the values of a type. -/
structure Codec.IsOf (n : Naming) (t : Ty) (codec : Codec) : Prop where
  isEnum : t.isEnum = codec.isEnum
  isStruct : t.isStruct = codec.isStruct
  isContainer : t.isContainer = codec.isContainer
  scalar : t.scalarName? = codec.scalarName?
  type : ∀ type, codec.type? n.dialect = some type →
    n.typeName t false = .ok type ∧ n.typeArg t false = .ok type
  tag : ∃ tag, t.wireTag = .ok tag ∧ codec.tag? = some tag

/-- A type that is resolved and has values has a codec, and both have the same tag. -/
theorem Codec.exists_isOf {n : Naming} {t : Ty} (h : t.unresolved = [])
    (hvoid : t.isVoid = false) : ∃ codec : Codec, codec.IsOf n t := by
  have harg (item : Ty) (h : item.unresolved = []) :
      ∃ name, n.renderType false true item = .ok name :=
    fault?_eq_none.1 ((n.fault?_renderType false true item).trans (Ty.fault?_eq_none.2 h))
  -- A container has the same text whether it is boxed or not, because its items always are.
  cases t with
  | void => cases hvoid
  | onewayVoid => cases hvoid
  | reference id => cases h
  | enum id =>
    refine ⟨.enum (n.namedType id), rfl, rfl, rfl, rfl, ?_, _, rfl, rfl⟩
    rintro _ ⟨⟩
    exact ⟨rfl, rfl⟩
  | struct id =>
    refine ⟨.struct (n.namedType id), rfl, rfl, rfl, rfl, ?_, _, rfl, rfl⟩
    rintro _ ⟨⟩
    exact ⟨rfl, rfl⟩
  | list item =>
    obtain ⟨name, hname⟩ := harg item h
    refine ⟨.container .list [name], rfl, rfl, rfl, rfl, ?_, _, rfl, rfl⟩
    rintro _ ⟨⟩
    simp [Naming.typeName, Naming.typeArg, Naming.renderType, hname, bind, Except.bind]
  | set item =>
    obtain ⟨name, hname⟩ := harg item h
    refine ⟨.container .set [name], rfl, rfl, rfl, rfl, ?_, _, rfl, rfl⟩
    rintro _ ⟨⟩
    simp [Naming.typeName, Naming.typeArg, Naming.renderType, hname, bind, Except.bind]
  | map key value =>
    rw [Ty.unresolved_map, List.append_eq_nil_iff] at h
    obtain ⟨keyName, hkey⟩ := harg key h.1
    obtain ⟨valueName, hvalue⟩ := harg value h.2
    refine ⟨.container .map [keyName, valueName], rfl, rfl, rfl, rfl, ?_, _, rfl, rfl⟩
    rintro _ ⟨⟩
    simp [Naming.typeName, Naming.typeArg, Naming.renderType, hkey, hvalue, bind, Except.bind]
  | _ => exact ⟨.scalar _, rfl, rfl, rfl, rfl, by rintro _ ⟨⟩, _, rfl, rfl⟩

/-! ## Fields of a construct -/

/-- The field on top of the scopes is announced with the tag of the codec, read with the codec, and
written with it. -/
structure Codec.Carries (d : Dialect) (scopes : List Dictionary) (codec : Codec) : Prop where
  announced : ∃ tag, codec.tag? = some tag ∧ resolve scopes "wire_tag" = some (.code tag.name)
  read : d.templates.Chooses d.readTemplate keys scopes codec.key (codec.reading d)
  written : d.templates.Chooses "field_write" keys scopes codec.key (codec.writing d)

/-- The fields of a struct in the scopes around it: each that has a value has the codec of its
type. -/
def Dictionary.FieldsCoded (n : Naming) (outer : List Dictionary) (record : Dictionary)
    (fields : List Field) : Prop :=
  ∃ items, record.list? "fields" = some items ∧
    List.Forall₂ (fun f item => f.ty.isVoid = false → ∃ codec : Codec, codec.IsOf n f.ty ∧
      codec.Carries n.dialect (item :: record :: outer)) fields items

/-- The fields of a construct, and those of the structs of its methods. -/
def Construct.FieldsCoded (n : Naming) (dict : Dictionary) : Construct → Prop
  | constants _ => True
  | enumeration _ => True
  | record r => dict.FieldsCoded n [] r.fields
  | service s => ∃ records, dict.list? "function_structs" = some records ∧
    List.Forall₂ (fun r record => record.FieldsCoded n [dict] r.fields)
      (s.methods.flatMap Method.records) records

/-- A scalar is known by the presence of its methods, so nothing around a field may have any. -/
def MethodFree (scopes : List Dictionary) : Prop :=
  ∀ key ∈ ["read_method", "write_method"], resolve scopes key = none

theorem MethodFree.cons {d : Dictionary} {outer : List Dictionary}
    (hd : ∀ key ∈ ["read_method", "write_method"], d.get? key = none) (h : MethodFree outer) :
    MethodFree (d :: outer) := by
  intro key hkey
  rw [resolve, List.findSome?_cons, hd key hkey]
  exact h key hkey

theorem Field.Travels.carries {n : Naming} {f : Field} {item : Dictionary}
    (h : f.Travels n item) {outer : List Dictionary} (houter : MethodFree outer) {codec : Codec}
    (hcodec : codec.IsOf n f.ty) : codec.Carries n.dialect (item :: outer) := by
  have hmethod {key : String} {entry : Option Entry} (hitem : item.get? key = entry)
      (hnone : resolve outer key = none) : resolve (item :: outer) key = entry := by
    rw [resolve, List.findSome?_cons, hitem]
    cases entry with
    | none => exact hnone
    | some e => rfl
  have hfound : codec.Found n.dialect (item :: outer) := by
    constructor
    · rw [resolve_of_get? h.isEnum, hcodec.isEnum]
    · rw [resolve_of_get? h.isStruct, hcodec.isStruct]
    · rw [resolve_of_get? h.isContainer, hcodec.isContainer]
    · rw [hmethod h.read (houter _ (by decide)), hcodec.scalar]
    · rw [hmethod h.write (houter _ (by decide)), hcodec.scalar]
    · intro type htype
      obtain ⟨hname, harg⟩ := hcodec.type type htype
      obtain ⟨plain, hplain, hplainCode⟩ := h.plain
      obtain ⟨boxed, hboxed, hboxedCode⟩ := h.boxed
      cases hname.symm.trans hplain
      cases harg.symm.trans hboxed
      exact ⟨resolve_of_get? hplainCode outer, resolve_of_get? hboxedCode outer⟩
  obtain ⟨tag, htag, htagCode⟩ := h.tag
  obtain ⟨tag', htag', hcodecTag⟩ := hcodec.tag
  cases htag.symm.trans htag'
  exact ⟨⟨tag, hcodecTag, resolve_of_get? htagCode outer⟩, hfound.reads, hfound.writes⟩

theorem Record.fieldsCoded {n : Naming} {r : Record} {body : Dictionary} (h : r.body n = .ok body)
    {record : Dictionary} (hrecord : record.list? "fields" = body.list? "fields")
    {outer : List Dictionary} (houter : MethodFree (record :: outer))
    (htypes : ∀ f ∈ r.fields, f.ty.unresolved = []) : record.FieldsCoded n outer r.fields := by
  obtain ⟨-, -, items, hlist, hitems⟩ := body_items h
  refine ⟨items, hrecord.trans hlist, ?_⟩
  refine ((List.forall₂_and_left _ _).2 ⟨htypes, hitems⟩).imp ?_
  rintro f item ⟨htype, hitem⟩ hvoid
  obtain ⟨codec, hcodec⟩ := Codec.exists_isOf (n := n) htype hvoid
  exact ⟨codec, hcodec, hitem.travels.carries houter hcodec⟩

theorem Service.fieldsCoded {n : Naming} {package : Identifier} {inclusions : List Inclusion}
    {options : ServiceOptions} {s : Service} {dict : Dictionary}
    (h : s.dictionary n package inclusions options = .ok dict)
    (htypes : ∀ t ∈ s.methods.flatMap Method.types, t.unresolved = []) :
    (Construct.service s).FieldsCoded n dict := by
  have hdict : MethodFree [dict] := by
    intro key hkey
    refine resolve_eq_none h ?_
    revert key
    decide
  obtain ⟨methods, records, -, hlist, -, hrecords⟩ := exists_items h
  have hfields : ∀ r ∈ s.methods.flatMap Method.records, ∀ f ∈ r.fields, f.ty.unresolved = [] := by
    intro r hr f hf
    obtain ⟨m, hm, hr⟩ := List.mem_flatMap.1 hr
    exact htypes f.ty (List.mem_flatMap.2 ⟨m, hm, Method.types_records hr hf⟩)
  refine ⟨records, hlist, ?_⟩
  refine ((List.forall₂_and_left _ _).2 ⟨hfields, hrecords⟩).imp ?_
  rintro r record ⟨hfields, body, hbody, hmark⟩
  have hrecord : MethodFree [record, dict] := by
    refine MethodFree.cons (fun key hkey => ?_) hdict
    have hmarks : key ≠ "first" ∧ key ≠ "last" := by
      revert key
      decide
    have hnot : key ∉ Outline.body.map (·.1) := by
      revert key
      decide
    rw [hmark key hmarks.1 hmarks.2, (Record.body_fits hbody).get?_eq_none hnot]
  exact Record.fieldsCoded hbody (hmark.list? (by decide) (by decide)) hrecord hfields

theorem Construct.fieldsCoded {s : Setting} {k : Construct} {dict : Dictionary}
    (h : k.dictionary s = .ok dict) (htypes : ∀ t ∈ k.types, t.unresolved = []) :
    k.FieldsCoded s.naming dict := by
  cases k with
  | constants items => trivial
  | enumeration e => trivial
  | record r =>
    obtain ⟨body, hbody, hlist⟩ := Record.exists_body_of_dictionary h
    have hdict : MethodFree [dict] := by
      refine MethodFree.cons (fun key hkey => (Record.dictionary_fits h).get?_eq_none ?_)
        fun key hkey => rfl
      revert key
      decide
    exact Record.fieldsCoded hbody hlist hdict (List.forall_mem_map.1 htypes)
  | service v => exact Service.fieldsCoded h htypes

/-- Where no reference is left, each field of a struct, and of the structs of methods in their
service, is read and written in one way: the same one of the four sections is rendered in both
templates, no other section holds, and what it calls has the tag under which the field is announced.
Integers carry enums, and strings binaries. -/
theorem Construct.fields_coded {s : Setting} {k : Construct}
    (h : ∀ t ∈ k.types, t.unresolved = []) :
    ∃ dict, k.dictionary s = .ok dict ∧ k.FieldsCoded s.naming dict := by
  have hnone : fault? (k.dictionary s) = none := by
    rw [fault?_dictionary, List.findSome?_eq_none_iff]
    exact fun t ht => Ty.fault?_eq_none.2 (h t ht)
  obtain ⟨dict, hdict⟩ := fault?_eq_none.1 hnone
  exact ⟨dict, hdict, fieldsCoded hdict h⟩

/-- A method that is given a binary and returns a list, in the scopes of its service. -/
theorem Construct.fields_coded_store :
    let s : Setting := ⟨⟨.java, []⟩, .simple "thrift", [], .none⟩
    let k : Construct := .service ⟨.simple "Store", none, [⟨.simple "find", "find", .list .i64,
      [⟨1, .simple "key", "key", .binary, .unmarked, none⟩], [], false⟩]⟩
    ∃ dict args result key success, k.dictionary s = .ok dict ∧
      dict.list? "function_structs" = some [args, result] ∧
      args.list? "fields" = some [key] ∧ result.list? "fields" = some [success] ∧
      (Codec.scalar "Binary").Carries .java [key, args, dict] ∧
      javaTemplates.Chooses "field_read" Codec.keys [success, result, dict] "is_container"
        "Codec.<List<Long>>read(iprot)" := by
  intro s k
  have htypes : ∀ t ∈ k.types, t.unresolved = [] := by decide
  obtain ⟨dict, hdict, records, hrecords, hcoded⟩ := fields_coded (s := s) htypes
  obtain ⟨args, rest, ⟨keys, hkeys, hargs⟩, hrest, rfl⟩ := List.forall₂_cons_left_iff.1 hcoded
  obtain ⟨result, rfl, successes, hsuccesses, hresult⟩ := forall₂_singleton_left_iff.1 hrest
  obtain ⟨key, rfl, hkey⟩ := forall₂_singleton_left_iff.1 hargs
  obtain ⟨success, rfl, hsuccess⟩ := forall₂_singleton_left_iff.1 hresult
  refine ⟨dict, args, result, key, success, hdict, hrecords, hkeys, hsuccesses, ?_, ?_⟩
  · obtain ⟨codec, hcodec, hcarries⟩ := hkey rfl
    cases codec <;> cases hcodec.scalar
    exact hcarries
  · obtain ⟨codec, hcodec, hcarries⟩ := hsuccess rfl
    cases codec with
    | container kind items =>
      have hname : Dialect.containerType .java kind items false = "List<Long>" :=
        Except.ok.inj (hcodec.type _ rfl).1.symm
      have hread := hcarries.read
      rwa [Codec.reading, hname] at hread
    | _ => cases hcodec.isContainer

end StubForge
