import Mathlib.Tactic.Simproc.ExistsAndEq
import StubForge.Proofs.Generation.Rendering
import StubForge.Proofs.Stub.Signatures
import StubForge.Proofs.Template.Parts

/-! What a field holds that a reader does not meet: the value that its variable is declared with
before anything is read. -/
namespace StubForge
open Template Dictionary

namespace Dialect

/-! ## Variables of a reader -/

/-- The declaration of a variable, which may have a value to start from. -/
def declaration (d : Dialect) (name type : String) (start : Option String) : String :=
  match d with
  | scala => "    var " ++ name ++ ": " ++ type ++ start.elim "" (" = " ++ ·) ++ "\n"
  | java => "  private " ++ type ++ " " ++ name ++ start.elim "" (" = " ++ ·) ++ ";\n"

/-- From the declarations of the variables to the loop that reads. In Java they are those of the
class, and the reader starts from what the constructor without parameters leaves in them. -/
def reader (d : Dialect) (name declarations between : String) : String :=
  match d with
  | scala => "\n  def decode(_iprot: TProtocol): " ++ name ++ " = \x7b\n" ++ declarations ++
      "\n    _iprot.readStructBegin()\n    var _done = false\n    while (!_done) \x7b\n"
  | java => declarations ++ "\n  public " ++ name ++ "() \x7b\n  \x7d\n" ++ between ++
      "\n  public static " ++ name ++ " decode(TProtocol iprot) throws TException \x7b\n    " ++
      name ++ " result = new " ++ name ++
      "();\n    iprot.readStructBegin();\n    while (true) \x7b\n"

/-- What the template of a struct has for the variable of each field. -/
def variableNodes : Dialect → List Node
  | scala => [
    .when "optional" [
      .text "    var ", .value "field_name", .text ": ", .value "field_type", .text " = None\n"],
    .unless "optional" [
      .text "    var ", .value "field_name", .text ": ", .value "field_type", .text " = ",
      .value "default_read_value", .text "\n"],
    .when "required" [.text "    var _got", .value "FieldName", .text " = false\n"]]
  | java => [
    .when "optional" [
      .text "  private ", .value "field_type", .text " ", .value "field_name",
      .text " = Optional.empty();\n"],
    .unless "optional" [
      .when "has_default_value" [
        .text "  private ", .value "field_type", .text " ", .value "field_name", .text " = ",
        .value "default_value", .text ";\n"],
      .unless "has_default_value" [
        .text "  private ", .value "field_type", .text " ", .value "field_name", .text ";\n"]]]

/-- What the template of a struct has for `reader`. -/
def readerNodes (d : Dialect) (between : List Node) : List Node :=
  match d with
  | scala => [.text "\n  def decode(_iprot: TProtocol): ", .value "StructName", .text " = \x7b\n",
      .when "fields" d.variableNodes,
      .text "\n    _iprot.readStructBegin()\n    var _done = false\n    while (!_done) \x7b\n"]
  | java => [.insertion "fields" "", .text "\n  public ", .value "StructName",
      .text "() \x7b\n  \x7d\n"] ++ (between ++ [.text "\n  public static ", .value "StructName",
      .text " decode(TProtocol iprot) throws TException \x7b\n    ", .value "StructName",
      .text " result = new ", .value "StructName",
      .text "();\n    iprot.readStructBegin();\n    while (true) \x7b\n"])

theorem exists_readerNodes (d : Dialect) : ∃ before between after,
    d.templates.find? "struct_body" = some (before ++ (d.readerNodes between ++ after)) := by
  cases d with
  | scala =>
    exact ⟨ScalaTemplates.structBody.take 6, [], ScalaTemplates.structBody.drop 11, rfl⟩
  | java =>
    exact ⟨JavaTemplates.structBody.take 5, (JavaTemplates.structBody.drop 9).take 2,
      JavaTemplates.structBody.drop 18, rfl⟩

section
variable {insert : String → Renderer} {template : String} {scopes : List Dictionary}
  {name type : String} {optional : Bool}
  (hname : resolve scopes "field_name" = some (.code name))
  (htype : resolve scopes "field_type" = some (.code type))
  (hoptional : resolve scopes "optional" = some (.flag optional))
include hname htype hoptional

theorem renderNodes_variableNodes_scala {title zero : String} {required : Bool}
    (htitle : resolve scopes "FieldName" = some (.code title))
    (hzero : resolve scopes "default_read_value" = some (.code zero))
    (hrequired : resolve scopes "required" = some (.flag required)) :
    renderNodes insert template scopes scala.variableNodes =
      .ok (scala.declaration name type (some (if optional then "None" else zero)) ++
        if required then "    var _got" ++ title ++ " = false\n" else "") := by
  unfold declaration
  cases optional <;> cases required <;>
    simp [variableNodes, renderNodes, renderNode_when_flag hoptional,
      renderNode_unless_flag hoptional, renderNode_when_flag hrequired, renderNode_text,
      renderNode_value hname, renderNode_value htype, renderNode_value htitle,
      renderNode_value hzero, bind, Except.bind, String.append_assoc]

theorem renderNodes_variableNodes_java {initial : Option String}
    (hhas : resolve scopes "has_default_value" = some (.flag initial.isSome))
    (hinitial : ∀ value, initial = some value →
      resolve scopes "default_value" = some (.code value)) :
    renderNodes insert template scopes java.variableNodes =
      .ok (java.declaration name type (if optional then some "Optional.empty()" else initial)) := by
  unfold declaration
  cases optional with
  | true =>
    simp [variableNodes, renderNodes, renderNode_when_flag hoptional,
      renderNode_unless_flag hoptional, renderNode_text, renderNode_value hname,
      renderNode_value htype, bind, Except.bind, String.append_assoc]
  | false =>
    cases initial with
    | none =>
      simp [variableNodes, renderNodes, renderNode_when_flag hoptional,
        renderNode_unless_flag hoptional, renderNode_when_flag hhas, renderNode_unless_flag hhas,
        renderNode_text, renderNode_value hname, renderNode_value htype, bind, Except.bind,
        String.append_assoc]
    | some value =>
      simp [variableNodes, renderNodes, renderNode_when_flag hoptional,
        renderNode_unless_flag hoptional, renderNode_when_flag hhas, renderNode_unless_flag hhas,
        renderNode_text, renderNode_value hname, renderNode_value htype,
        renderNode_value (hinitial value rfl), bind, Except.bind, String.append_assoc]

end

theorem renderPart_readerNodes {d : Dialect} {dict : Dictionary} {name text : String}
    {fields : List Dictionary} {mid : List Node}
    (hname : resolve [dict] "StructName" = some (.code name))
    (hfields : resolve [dict] "fields" = some (.list fields))
    (h : d.templates.renderPart "struct_body" dict (d.readerNodes mid) = .ok text) :
    ∃ declarations between, text = d.reader name (String.join declarations) between ∧
      List.Forall₂ (fun field declaration => ∃ insert template,
        renderNodes insert template [field, dict] d.variableNodes = .ok declaration) fields
        declarations := by
  have hvalue (insert : String → Renderer) (template : String) :
      renderNode insert template [dict] (.value "StructName") = .ok name := renderNode_value hname
  rw [TemplateSet.renderPart] at h
  cases d with
  | scala =>
    simp only [readerNodes, renderNodes_cons_eq_ok, renderNode_text, Except.ok.injEq, hvalue,
      renderNode_list_eq_ok hfields, renderNodes_nil, String.empty_eq_iff, exists_and_left,
      ↓existsAndEq, String.append_empty, true_and, exists_eq_left', and_true] at h
    obtain ⟨declarations, hall, rfl⟩ := h
    refine ⟨declarations, "", ?_, hall.imp fun _ _ hd => ⟨_, _, hd⟩⟩
    unfold reader
    simp only [String.append_assoc]
  | java =>
    simp only [readerNodes, List.cons_append, List.nil_append, renderNodes_cons_eq_ok,
      renderNode_text, renderNode_insertion_empty, Except.ok.injEq, hvalue,
      renderNodes_append_eq_ok, renderNodes_nil, String.empty_eq_iff, exists_and_left,
      ↓existsAndEq, String.append_empty, true_and, exists_eq_left', and_true] at h
    obtain ⟨inserted, hinserted, between, -, rfl⟩ := h
    -- The inserted template is one section over the fields.
    have hsection : renderNodes (java.templates.renderWithin (java.templates.maxDepth - 2)) "fields"
        [dict] [.when "fields" java.variableNodes] = .ok inserted := hinserted
    rw [renderNodes_singleton, renderNode_list_eq_ok hfields] at hsection
    obtain ⟨declarations, hall, rfl⟩ := hsection
    refine ⟨declarations, between, ?_, hall.imp fun _ _ hd => ⟨_, _, hd⟩⟩
    unfold reader
    simp only [String.append_assoc]

/-- A struct is rendered by declaring one variable for each field and reading into them. -/
theorem exists_reader (d : Dialect) {dict : Dictionary} {name text : String}
    {fields : List Dictionary} (hname : resolve [dict] "StructName" = some (.code name))
    (hfields : resolve [dict] "fields" = some (.list fields))
    (htext : d.templates.render "struct_body" dict = .ok text) :
    ∃ declarations before between after,
      text = before ++ d.reader name (String.join declarations) between ++ after ∧
      List.Forall₂ (fun field declaration => ∃ insert template,
        renderNodes insert template [field, dict] d.variableNodes = .ok declaration) fields
        declarations := by
  obtain ⟨pre, mid, post, hnodes⟩ := d.exists_readerNodes
  obtain ⟨before, middle, after, -, hmiddle, -, rfl⟩ := (TemplateSet.render_eq_ok hnodes).1 htext
  obtain ⟨declarations, between, rfl, hall⟩ := renderPart_readerNodes hname hfields hmiddle
  exact ⟨declarations, before, between, after, rfl, hall⟩

end Dialect

/-! ## Fields -/

/-- What a reader keeps in the variable of a field that it does not meet. -/
def Naming.start? (n : Naming) (f : Field) : Except Fault (Option String) :=
  match n.dialect with
  | .scala => if f.isOptional then .ok (some "None") else (n.readInitial f).map some
  | .java => if f.isOptional then .ok (some "Optional.empty()") else n.fieldInitial? f

/-- The second variable of a required field, in which a reader in Scala notes that it met it. -/
def Naming.presence (n : Naming) (f : Field) : String :=
  if n.dialect = .scala ∧ f.isRequired then
    "    var _got" ++ n.identifier f.titleName ++ " = false\n"
  else ""

/-- What a field says about its presence and its values. -/
structure Field.Values (n : Naming) (f : Field) (d : Dictionary) : Prop where
  optional : d.flag? "optional" = some f.isOptional
  required : d.flag? "required" = some f.isRequired
  zero : ∃ zero, n.readInitial f = .ok zero ∧ d.code? "default_read_value" = some zero
  initial : ∃ initial, n.fieldInitial? f = .ok initial ∧
    d.flag? "has_default_value" = some initial.isSome ∧ d.code? "default_value" = initial

theorem Field.HasItem.values {n : Naming} {f : Field} {item : Dictionary} (h : f.HasItem n item) :
    f.Values n item := by
  obtain ⟨index, d, h, hmark⟩ := h
  simp only [dictionary, bind_eq_ok] at h
  obtain ⟨tag, -, type, -, plain, -, boxed, -, zero, hzero, initial, hinitial, methods, hmethods,
    h⟩ := h
  cases h
  constructor
  · exact hmark.flag? (by decide) (by decide)
  · exact hmark.flag? (by decide) (by decide)
  · exact ⟨zero, hzero, hmark.code? (by decide) (by decide)⟩
  · refine ⟨initial, hinitial, ?_⟩
    rw [hmark.flag? (by decide) (by decide), hmark.code? (by decide) (by decide)]
    cases initial with
    | some value => exact ⟨rfl, rfl⟩
    | none =>
      refine ⟨rfl, ?_⟩
      rw [code?, get?_append, methodEntries_get? hmethods (by decide) (by decide)]
      rfl

/-- The variable of a field, declared with what it holds until the field is read. -/
theorem Field.declaration_of_variableNodes {n : Naming} {f : Field} {field outer : Dictionary}
    (hentries : f.Entries n field) (hvalues : f.Values n field) {insert : String → Renderer}
    {template text : String}
    (h : renderNodes insert template [field, outer] n.dialect.variableNodes = .ok text) :
    ∃ type start, n.fieldType f false = .ok type ∧ n.start? f = .ok start ∧
      text = n.dialect.declaration (n.identifier f.name) type start ++ n.presence f := by
  obtain ⟨type, htype, htypeCode⟩ := hentries.type
  have hresolve {key text : String} (h : field.code? key = some text) :=
    resolve_of_get? (code?_eq_some.1 h) [outer]
  have hflag {key : String} {value : Bool} (h : field.flag? key = some value) :=
    resolve_of_get? (flag?_eq_some.1 h) [outer]
  have hname := hresolve hentries.name
  have hoptional := hflag hvalues.optional
  unfold Naming.start? Naming.presence
  cases hd : n.dialect with
  | scala =>
    obtain ⟨zero, hzero, hzeroCode⟩ := hvalues.zero
    rw [hd, Dialect.renderNodes_variableNodes_scala hname (hresolve htypeCode) hoptional
      (hresolve hentries.title) (hresolve hzeroCode) (hflag hvalues.required)] at h
    refine ⟨type, some (if f.isOptional then "None" else zero), htype, ?_, ?_⟩
    · rw [hzero]
      cases f.isOptional <;> rfl
    · simp [← Except.ok.inj h]
  | java =>
    obtain ⟨initial, hinitial, hhas, hinitialCode⟩ := hvalues.initial
    have hvalue (value : String) (hv : initial = some value) :=
      hresolve (hinitialCode.trans hv)
    rw [hd, Dialect.renderNodes_variableNodes_java hname (hresolve htypeCode) hoptional
      (hflag hhas) hvalue] at h
    refine ⟨type, if f.isOptional then some "Optional.empty()" else initial, htype, ?_, ?_⟩
    · rw [hinitial]
      cases f.isOptional <;> rfl
    · simp [← Except.ok.inj h]

/-! ## Structs -/

/-- The dictionary of a struct, by itself or with what its file adds. -/
def Record.HasDictionary (n : Naming) (r : Record) (dict : Dictionary) : Prop :=
  r.body n = .ok dict ∨
    ∃ package inclusions options, r.dictionary n package inclusions options = .ok dict

theorem Record.HasDictionary.exists_body {n : Naming} {r : Record} {dict : Dictionary}
    (h : r.HasDictionary n dict) : ∃ body rest, r.body n = .ok body ∧ dict = body ++ rest := by
  rcases h with hbody | ⟨package, inclusions, options, h⟩
  · exact ⟨dict, [], hbody, (List.append_nil dict).symm⟩
  · obtain ⟨body, hbody, h⟩ := bind_eq_ok.1 h
    cases h
    exact ⟨body, _, hbody, List.append_assoc ..⟩

theorem Record.HasDictionary.exists_text {n : Naming} {r : Record} {dict : Dictionary}
    (h : r.HasDictionary n dict) :
    ∃ text, n.dialect.templates.render "struct_body" dict = .ok text := by
  have hdepth : 2 ≤ n.dialect.templates.maxDepth := Nat.le_of_succ_le n.dialect.three_le_maxDepth
  rcases h with hbody | ⟨package, inclusions, options, h⟩
  · have haccepts : n.dialect.templates.accepts 2 "struct_body" [Outline.body] = true := by
      cases n.dialect <;> decide +kernel
    exact n.dialect.templates.render_ok hdepth (Record.body_fits hbody) haccepts
  · have haccepts : n.dialect.templates.accepts 2 "struct_body" [Outline.record] = true := by
      cases n.dialect <;> decide +kernel
    exact n.dialect.templates.render_ok hdepth (Record.dictionary_fits h) haccepts

/-- What a template finds in the dictionary of a struct: its names, and an item for each field. -/
theorem Record.HasDictionary.exists_items {n : Naming} {r : Record} {dict : Dictionary}
    (h : r.HasDictionary n dict) :
    resolve [dict] "StructName" = some (.code (n.identifier r.name)) ∧
    resolve [dict] "struct_name_for_wire" = some (.code (Text.quote r.name.name)) ∧ ∃ items,
      resolve [dict] "fields" = some (.list items) ∧
      List.Forall₂ (Field.HasItem n) r.fields items := by
  obtain ⟨body, rest, hbody, rfl⟩ := h.exists_body
  obtain ⟨hname, hwire, items, hlist, hitems⟩ := body_items hbody
  have hresolve {key : String} {e : Entry} (he : body.get? key = some e) :
      resolve [body ++ rest] key = some e := resolve_of_get? (by simp [get?_append, he]) []
  exact ⟨hresolve (code?_eq_some.1 hname), hresolve (code?_eq_some.1 hwire), items,
    hresolve (list?_eq_some.1 hlist), hitems⟩

/-- A reader declares the variables of all fields in their order before it reads anything. -/
theorem Record.exists_declarations {n : Naming} {r : Record} {dict : Dictionary}
    (h : r.HasDictionary n dict) :
    ∃ declarations before between after,
      n.dialect.templates.render "struct_body" dict =
        .ok (before ++ n.dialect.reader (n.identifier r.name) (String.join declarations) between ++
          after) ∧
      List.Forall₂ (fun f declaration => ∃ type start, n.fieldType f false = .ok type ∧
        n.start? f = .ok start ∧ declaration =
          n.dialect.declaration (n.identifier f.name) type start ++ n.presence f)
        r.fields declarations := by
  obtain ⟨text, htext⟩ := h.exists_text
  obtain ⟨hname, -, items, hlist, hitems⟩ := h.exists_items
  obtain ⟨declarations, before, between, after, rfl, hall⟩ :=
    n.dialect.exists_reader hname hlist htext
  refine ⟨declarations, before, between, after, htext, ?_⟩
  refine forall₂_join (List.Forall₂.flip hitems) hall ?_
  rintro item f declaration (hitem : f.HasItem n item) ⟨insert, template, hdeclaration⟩
  exact Field.declaration_of_variableNodes hitem.entries hitem.values hdeclaration

/-- The variable of a field that has an explicit default starts from that default in Java. In Scala
it starts from the value of its type that stands for nothing, and so from the default only where
the two are written alike. -/
theorem Record.initial_values {n : Naming} {r : Record} {dict : Dictionary}
    (h : r.HasDictionary n dict) :
    ∃ declarations before between after,
      n.dialect.templates.render "struct_body" dict =
        .ok (before ++ n.dialect.reader (n.identifier r.name) (String.join declarations) between ++
          after) ∧
      List.Forall₂ (fun f declaration => ∀ value, f.isOptional = false → f.initial = some value →
        ∃ type start, n.fieldType f false = .ok type ∧ declaration =
          n.dialect.declaration (n.identifier f.name) type (some start) ++ n.presence f ∧
        (start = n.literal false value ↔
          n.dialect = .java ∨ n.zeroValue f.ty false = .ok (n.literal false value)))
        r.fields declarations := by
  obtain ⟨declarations, before, between, after, hrender, hall⟩ := Record.exists_declarations h
  refine ⟨declarations, before, between, after, hrender, hall.imp ?_⟩
  rintro f declaration ⟨type, start, htype, hstart, rfl⟩ value hoptional hinitial
  cases hd : n.dialect with
  | scala =>
    have hmap : (n.zeroValue f.ty false).map some = .ok start := by
      simpa [Naming.start?, hd, hoptional, Naming.readInitial] using hstart
    cases hzero : n.zeroValue f.ty false with
    | error fault => simp [hzero, Except.map] at hmap
    | ok zero =>
      rw [hzero] at hmap
      cases hmap
      exact ⟨type, zero, htype, rfl, by simp⟩
  | java =>
    have hliteral : some (n.literal false value) = start := by
      simpa [Naming.start?, hd, hoptional, Naming.fieldInitial?, hinitial] using hstart
    cases hliteral
    exact ⟨type, n.literal false value, htype, rfl, by simp⟩

/-- A counter that starts from seven. -/
theorem Record.initial_values_counter :
    let n : Naming := ⟨.java, []⟩
    let r : Record := ⟨.simple "Settings", .struct,
      [⟨1, .simple "count", "count", .i32, .unmarked, some (.int 7)⟩]⟩
    ∃ dict before between after, r.body n = .ok dict ∧
      javaTemplates.render "struct_body" dict = .ok (before ++
        Dialect.java.reader "Settings" "  private int count = 7;\n" between ++ after) := by
  intro n r
  have hnone : fault? (r.body n) = none := by decide +kernel
  have htext : n.identifier (.simple "Settings") = "Settings" ∧
      n.identifier (.simple "count") = "count" ∧ n.literal false (.int 7) = "7" := by
    decide +kernel
  obtain ⟨dict, hdict⟩ := fault?_eq_none.1 hnone
  obtain ⟨declarations, before, between, after, hrender, hall⟩ := initial_values (.inl hdict)
  obtain ⟨declaration, rfl, hfirst⟩ := forall₂_singleton_left_iff.1 hall
  obtain ⟨type, start, htype, rfl, hstart⟩ := hfirst (.int 7) rfl rfl
  cases htype
  rw [htext.1, htext.2.1, hstart.2 (.inl rfl), htext.2.2] at hrender
  refine ⟨dict, before, between, after, hdict, hrender.trans ?_⟩
  rfl

/-- In Scala the same counter starts from zero, although its default is seven. -/
theorem Record.initial_values_counter_scala :
    let n : Naming := ⟨.scala, []⟩
    let r : Record := ⟨.simple "Settings", .struct,
      [⟨1, .simple "count", "count", .i32, .unmarked, some (.int 7)⟩]⟩
    n.literal false (.int 7) = "7" ∧ ∃ dict before between after, r.body n = .ok dict ∧
      scalaTemplates.render "struct_body" dict = .ok (before ++
        Dialect.scala.reader "Settings" "    var count: Int = 0\n" between ++ after) := by
  intro n r
  have hnone : fault? (r.body n) = none := by decide +kernel
  have htext : n.identifier (.simple "Settings") = "Settings" ∧
      n.identifier (.simple "count") = "count" ∧ n.literal false (.int 7) = "7" := by
    decide +kernel
  obtain ⟨dict, hdict⟩ := fault?_eq_none.1 hnone
  obtain ⟨declarations, before, between, after, hrender, hall⟩ :=
    Record.exists_declarations (.inl hdict)
  obtain ⟨declaration, rfl, type, start, htype, hstart, rfl⟩ :=
    forall₂_singleton_left_iff.1 hall
  cases htype
  cases hstart
  rw [htext.1, htext.2.1] at hrender
  refine ⟨htext.2.2, dict, before, between, after, hdict, hrender.trans ?_⟩
  rfl

end StubForge
