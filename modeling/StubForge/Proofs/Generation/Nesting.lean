import StubForge.Proofs.Generation.Rendering
import StubForge.Proofs.Template.Marks
import StubForge.Proofs.Template.Parts
import StubForge.Proofs.Template.Reach

/-! The structs of the methods inside the file of their service: each has the text that it has by
itself, shifted to the right. -/
namespace StubForge
open Template

/-- Two spaces before every line of a text that is not blank. -/
def Text.shifted (text : String) : String :=
  String.ofList <| (lines text.toList).flatMap fun l =>
    if l = ['\n'] ∨ l = ['\r', '\n'] then l else ' ' :: ' ' :: l

theorem Text.indent_eq_shifted (text : String) : indent "  " text = shifted text := by
  have hline : indentLine "  ".toList =
      fun l => if l = ['\n'] ∨ l = ['\r', '\n'] then l else ' ' :: ' ' :: l := by
    funext l
    simp [indentLine, isBlankLine]
  rw [indent, indentLines, hline, shifted]

example : Text.shifted "a\n\n\r\nb" = "  a\n\n\r\n  b" := by decide

/-! ## Keys of a service -/

/-- All that the dictionary of a service may have. -/
def serviceKeys : List String := (Outline.service true).map (·.1)

theorem Service.resolve_eq_none {n : Naming} {package : Identifier} {inclusions : List Inclusion}
    {options : ServiceOptions} {s : Service} {dict : Dictionary}
    (h : s.dictionary n package inclusions options = .ok dict) {key : String}
    (hkey : serviceKeys.contains key = false) : resolve [dict] key = none := by
  have hsub : ∀ k ∈ (Outline.service s.parent.isSome).map (·.1), k ∈ serviceKeys := by
    cases s.parent.isSome <;> decide
  have hnot : key ∉ (Outline.service s.parent.isSome).map (·.1) := fun hmem => by
    simp [hsub key hmem] at hkey
  simp [resolve, (Service.dictionary_fits h).get?_eq_none hnot]

namespace Dialect

/-- What a struct declares depends on nothing that a service has. -/
theorem structBody_avoids_serviceKeys (d : Dialect) :
    d.templates.avoids serviceKeys 2 "struct_body" = true := by cases d <;> decide +kernel

theorem structBody_accepts (d : Dialect) :
    d.templates.accepts 2 "struct_body" [Outline.marked Outline.body] = true := by
  cases d <;> decide +kernel

/-! ## Structs inside the template of a service -/

/-- The part of the template of a service that is repeated for each struct. -/
def nestedNodes : Dialect → List Node
  | scala => [.insertion "struct_body" "  ", .text "\n"]
  | java => [.text "\n  public static class ", .value "StructName",
      .text " implements ThriftStruct \x7b\n", .insertion "struct_body" "  ", .text "  \x7d\n"]

/-- What surrounds the declarations of a nested struct: nothing but its end in Scala, where they
contain the class, and the class itself in Java. -/
def nestedStruct (d : Dialect) (name declarations : String) : String :=
  match d with
  | scala => declarations ++ "\n"
  | java =>
    "\n  public static class " ++ name ++ " implements ThriftStruct \x7b\n" ++ declarations ++
      "  \x7d\n"

theorem exists_service_nodes (d : Dialect) : ∃ before after,
    d.templates.find? "service" =
      some (before ++ .when "function_structs" d.nestedNodes :: after) := by
  cases d with
  | scala =>
    have hmem : .when "function_structs" scala.nestedNodes ∈ ScalaTemplates.service := by
      simp [ScalaTemplates.service, nestedNodes]
    obtain ⟨before, after, h⟩ := List.append_of_mem hmem
    exact ⟨before, after, congrArg some h⟩
  | java =>
    have hmem : .when "function_structs" java.nestedNodes ∈ JavaTemplates.service := by
      simp [JavaTemplates.service, nestedNodes]
    obtain ⟨before, after, h⟩ := List.append_of_mem hmem
    exact ⟨before, after, congrArg some h⟩

end Dialect

/-- A struct of a service and the part of the file of the service that it stands for: its own text
`body`, which the service around it does not change, shifted to its place. -/
structure IsNested (d : Dialect) (service record : Dictionary) (name body part : String) :
    Prop where
  named : record.code? "StructName" = some name
  alone : d.templates.render "struct_body" record = .ok body
  inService : ∀ limit source, 2 ≤ limit →
    d.templates.renderWithin limit source "struct_body" [record, service] = .ok body
  inserted : ∀ limit, 2 ≤ limit → renderNode (d.templates.renderWithin limit) "service"
    [record, service] (.insertion "struct_body" "  ") = .ok (Text.shifted body)
  placed : part = d.nestedStruct name (Text.shifted body)

theorem Dialect.renderNodes_nestedNodes (d : Dialect) {insert : String → Renderer}
    {template : String} {record service : Dictionary} {name declarations : String}
    (hname : record.get? "StructName" = some (.code name))
    (hinsert : renderNode insert template [record, service] (.insertion "struct_body" "  ") =
      .ok declarations) :
    renderNodes insert template [record, service] d.nestedNodes =
      .ok (d.nestedStruct name declarations) := by
  have hvalue : renderNode insert template [record, service] (.value "StructName") = .ok name :=
    renderNode_value (resolve_of_get? hname [service])
  unfold nestedStruct
  cases d <;>
    simp only [nestedNodes, renderNodes, renderNode_text, hinsert, hvalue, bind, Except.bind,
      String.append_empty, String.append_assoc]

theorem Service.isNested {n : Naming} {package : Identifier} {inclusions : List Inclusion}
    {options : ServiceOptions} {s : Service} {dict : Dictionary}
    (h : s.dictionary n package inclusions options = .ok dict) {record : Dictionary}
    (hr : FitsAll record (Outline.marked Outline.body)) {limit : Nat} (hl : 2 ≤ limit)
    {part : String} (hpart : renderNodes (n.dialect.templates.renderWithin limit) "service"
      [record, dict] n.dialect.nestedNodes = .ok part) :
    ∃ name body, IsNested n.dialect dict record name body part := by
  have hcode : (Outline.marked Outline.body).get? "StructName" = some .code := rfl
  obtain ⟨name, hname⟩ := hr.exists_code hcode
  have hdepth : 2 ≤ n.dialect.templates.maxDepth := Nat.le_of_succ_le n.dialect.three_le_maxDepth
  obtain ⟨body, hbody⟩ := n.dialect.templates.render_ok hdepth hr n.dialect.structBody_accepts
  -- The service is the outermost scope, and no key of the struct's template reaches it.
  have hin (limit : Nat) (source : String) (hl : 2 ≤ limit) :
      n.dialect.templates.renderWithin limit source "struct_body" [record, dict] = .ok body := by
    have houter := TemplateSet.renderWithin_outer (fun _ => Service.resolve_eq_none h)
      n.dialect.structBody_avoids_serviceKeys hl hdepth source "struct_body" [record]
    exact houter.trans hbody
  have hinserted (limit : Nat) (hl : 2 ≤ limit) :
      renderNode (n.dialect.templates.renderWithin limit) "service" [record, dict]
        (.insertion "struct_body" "  ") = .ok (Text.shifted body) := by
    rw [renderNode, hin limit "service" hl, ← Text.indent_eq_shifted]
    rfl
  have hnodes := n.dialect.renderNodes_nestedNodes hname (hinserted limit hl)
  exact ⟨name, body, Dictionary.code?_eq_some.2 hname, hbody, hin, hinserted,
    Except.ok.inj (hpart.symm.trans hnodes)⟩

theorem Service.exists_records {n : Naming} {package : Identifier} {inclusions : List Inclusion}
    {options : ServiceOptions} {s : Service} {dict : Dictionary}
    (h : s.dictionary n package inclusions options = .ok dict) :
    ∃ records, dict.get? "function_structs" = some (.list records) ∧
      ∀ record ∈ records, FitsAll record (Outline.marked Outline.body) := by
  have hkey : (Outline.service s.parent.isSome).get? "function_structs" =
      some (.list [Outline.marked Outline.body]) := by cases s.parent.isSome <;> rfl
  obtain ⟨records, hrecords, heach⟩ := (Service.dictionary_fits h).exists_list hkey
  refine ⟨records, hrecords, fun record hmem => ?_⟩
  obtain ⟨o, ho, hfit⟩ := fitsEach_iff.1 heach record hmem
  rwa [List.mem_singleton.1 ho] at hfit

/-- The section over the structs of a service cuts its file: between the rest, there is a part for
each of them. -/
theorem Service.exists_parts {n : Naming} {package : Identifier} {inclusions : List Inclusion}
    {options : ServiceOptions} {s : Service} {dict : Dictionary}
    (h : s.dictionary n package inclusions options = .ok dict) {records : List Dictionary}
    (hrecords : dict.get? "function_structs" = some (.list records)) {text : String}
    (htext : n.dialect.templates.render "service" dict = .ok text) :
    ∃ before parts after, text = before ++ String.join parts ++ after ∧
      List.Forall₂ (fun record part => ∃ name body,
        IsNested n.dialect dict record name body part) records parts := by
  obtain ⟨pre, post, hnodes⟩ := n.dialect.exists_service_nodes
  obtain ⟨before, parts, after, rfl, hparts⟩ :=
    TemplateSet.render_cut hnodes hrecords htext
  have hdepth := n.dialect.three_le_maxDepth
  refine ⟨before, parts, after, rfl, ?_⟩
  refine List.forall₂_iff_zip.2 ⟨hparts.length_eq, fun {record part} hmem => ?_⟩
  obtain ⟨others, hothers, hfits⟩ := Service.exists_records h
  obtain rfl : records = others := by simpa [hrecords] using hothers
  exact Service.isNested h (hfits record (List.of_mem_zip hmem).1) (by omega)
    ((List.forall₂_iff_zip.1 hparts).2 hmem)

/-- Each struct of a service is rendered in its place as it is by itself: the dictionary of the
service, which is in scope around that of the struct, changes nothing, and the file of the service
has the text of the struct with every line shifted that is not blank. -/
theorem Service.nested_structs {n : Naming} {package : Identifier} {inclusions : List Inclusion}
    {options : ServiceOptions} {s : Service} {dict : Dictionary}
    (h : s.dictionary n package inclusions options = .ok dict) :
    ∃ records parts before after, dict.list? "function_structs" = some records ∧
      n.dialect.templates.render "service" dict =
        .ok (before ++ String.join parts ++ after) ∧
      List.Forall₂ (fun record part => ∃ name body,
        IsNested n.dialect dict record name body part) records parts := by
  have hfile : ("service", Outline.service s.parent.isSome) ∈ Outline.files := by
    cases s.parent.isSome <;> simp [Outline.files]
  obtain ⟨text, htext⟩ := templates_render n.dialect hfile (Service.dictionary_fits h)
  obtain ⟨records, hrecords, -⟩ := Service.exists_records h
  obtain ⟨before, parts, after, rfl, hparts⟩ := Service.exists_parts h hrecords htext
  exact ⟨records, parts, before, after, Dictionary.list?_eq_some.2 hrecords, htext, hparts⟩

/-- A method with two structs: its argument may be missing, and its result is a list. -/
theorem Service.nested_structs_monitor :
    let n : Naming := ⟨.java, [("shared", .parse "com.shared")]⟩
    let s : Service := ⟨.simple "Monitor", some ⟨.simple "Root", some (.simple "shared")⟩,
      [⟨.simple "read", "read", .list .i64,
        [⟨1, .simple "from", "from", .struct (.parse "shared.Point"), .optional, none⟩], [],
        false⟩]⟩
    ∃ dict records parts before after,
      s.dictionary n (.simple "thrift") [] ⟨true, false, true⟩ = .ok dict ∧
      dict.list? "function_structs" = some records ∧ records.length = 2 ∧
      javaTemplates.render "service" dict = .ok (before ++ String.join parts ++ after) ∧
      List.Forall₂ (fun record part => ∃ name body, IsNested .java dict record name body part)
        records parts := by
  intro n s
  have hlength : fault? (s.dictionary n (.simple "thrift") [] ⟨true, false, true⟩) = none ∧
      ((s.dictionary n (.simple "thrift") [] ⟨true, false, true⟩).toOption.bind
        (·.list? "function_structs")).map List.length = some 2 := by decide +kernel
  obtain ⟨dict, hdict⟩ := fault?_eq_none.1 hlength.1
  obtain ⟨records, parts, before, after, hlist, hrender, hnested⟩ := nested_structs hdict
  have htwo := hlength.2
  rw [hdict, Except.toOption, Option.bind_some, hlist] at htwo
  exact ⟨dict, records, parts, before, after, hdict, hlist, Option.some.inj htwo, hrender,
    hnested⟩

end StubForge
