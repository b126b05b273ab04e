import Mathlib.Data.List.Infix
import StubForge.Proofs.Generation.InitialValues
import StubForge.Proofs.Template.Spelled

/-! Required fields: which of them a reader checks once it has read everything. -/
namespace StubForge
open Template Dictionary

/-! ## Phrases of a template -/

namespace Template

/-- The phrase stands in a text or a margin of the nodes, or of a template that is inserted there,
however deep. What comes from a dictionary does not count. -/
inductive TemplateSet.Mentions (set : TemplateSet) (phrase : String) : List Node → Prop
  | text {nodes : List Node} {text : String} (hmem : .text text ∈ nodes)
      (h : phrase.toList <:+: text.toList) : Mentions set phrase nodes
  | block {nodes children : List Node} {key : String} {inverted : Bool}
      (hmem : .block key inverted children ∈ nodes) (h : Mentions set phrase children) :
      Mentions set phrase nodes
  | margin {nodes : List Node} {name margin : String} (hmem : .insertion name margin ∈ nodes)
      (h : phrase.toList <:+: margin.toList) : Mentions set phrase nodes
  | insertion {nodes inserted : List Node} {name margin : String}
      (hmem : .insertion name margin ∈ nodes) (hfind : set.find? name = some inserted)
      (h : Mentions set phrase inserted) : Mentions set phrase nodes

/-- The texts before and after `middle` in a template that has these nodes one after the other, and
mentions none of the phrases anywhere else. -/
def TemplateSet.RenderedAround (set : TemplateSet) (name : String) (middle : List Node)
    (phrases : List String) (d : Dictionary) (before after : String) : Prop :=
  ∃ pre post, set.find? name = some (pre ++ (middle ++ post)) ∧
    (∀ phrase ∈ phrases, ¬ set.Mentions phrase (pre ++ post)) ∧
    set.renderPart name d pre = .ok before ∧ set.renderPart name d post = .ok after

namespace Spelled

mutual

/-- Whether the phrase stands in a text or a margin of the node; inserted templates are left to
`insert`. -/
def mentionsNode (phrase : List Char) (insert : String → Bool) : Spelled → Bool
  | .text chars => decide (phrase <:+: chars)
  | .value _ => false
  | .block _ _ children => mentionsNodes phrase insert children
  | .insertion name margin => decide (phrase <:+: margin) || insert name

def mentionsNodes (phrase : List Char) (insert : String → Bool) : List Spelled → Bool
  | [] => false
  | n :: r => mentionsNode phrase insert n || mentionsNodes phrase insert r

end

/-- Whether the phrase stands in the template `name` or in one that it inserts. Where insertions are
more than `depth` deep, this is not known to be false. -/
def mentions (templates : List (String × List Spelled)) (phrase : List Char) : Nat → String → Bool
  | 0, _ => true
  | depth + 1, name =>
    match templates.lookup name with
    | none => false
    | some nodes => mentionsNodes phrase (mentions templates phrase depth) nodes

theorem mentionsNodes_of_mem {phrase : List Char} {insert : String → Bool} {n : Spelled}
    {ns : List Spelled} (hn : n ∈ ns) (h : mentionsNode phrase insert n = true) :
    mentionsNodes phrase insert ns = true := by
  induction ns with
  | nil => cases hn
  | cons m r ih =>
    rw [mentionsNodes, Bool.or_eq_true]
    rcases List.mem_cons.1 hn with rfl | hr
    · exact .inl h
    · exact .inr (ih hr)

theorem exists_of_mem_nodes {n : Node} {ns : List Spelled} (h : n ∈ nodes ns) :
    ∃ m ∈ ns, m.node = n := by
  rwa [nodes_eq_map, List.mem_map] at h

/-- What nodes in spelled form are found to mention covers all that they do mention. -/
theorem mentionsNodes_of_mentions {set : TemplateSet} {spelled : List (String × List Spelled)}
    (hset : templates spelled = set.templates) {phrase : String} {ns : List Spelled}
    (h : set.Mentions phrase (nodes ns)) (depth : Nat) :
    mentionsNodes phrase.toList (mentions spelled phrase.toList depth) ns = true := by
  generalize hnodes : nodes ns = nodes at h
  induction h generalizing ns depth with
  | text hmem htext =>
    obtain ⟨m, hm, hnode⟩ := exists_of_mem_nodes (hnodes ▸ hmem)
    cases m with
    | text chars =>
      cases hnode
      rw [String.toList_ofList] at htext
      exact mentionsNodes_of_mem hm (decide_eq_true htext)
    | _ => cases hnode
  | block hmem _ ih =>
    obtain ⟨m, hm, hnode⟩ := exists_of_mem_nodes (hnodes ▸ hmem)
    cases m with
    | block key inverted children =>
      cases hnode
      exact mentionsNodes_of_mem hm (ih depth rfl)
    | _ => cases hnode
  | margin hmem hmargin =>
    obtain ⟨m, hm, hnode⟩ := exists_of_mem_nodes (hnodes ▸ hmem)
    cases m with
    | insertion name margin =>
      cases hnode
      rw [String.toList_ofList] at hmargin
      refine mentionsNodes_of_mem hm ?_
      rw [mentionsNode, decide_eq_true hmargin, Bool.true_or]
    | _ => cases hnode
  | insertion hmem hfind _ ih =>
    obtain ⟨m, hm, hnode⟩ := exists_of_mem_nodes (hnodes ▸ hmem)
    cases m with
    | insertion name margin =>
      cases hnode
      refine mentionsNodes_of_mem hm ?_
      rw [mentionsNode, Bool.or_eq_true]
      right
      cases depth with
      | zero => rfl
      | succ depth =>
        rw [TemplateSet.find?, ← hset, lookup_templates, Option.map_eq_some_iff] at hfind
        obtain ⟨ms, hlookup, hms⟩ := hfind
        rw [mentions, hlookup]
        exact ih depth hms
    | _ => cases hnode

end Spelled

end Template

namespace Dialect

/-! ## Checks of a reader -/

/-- What every check has of its own, and no other part of the template of a struct: the quotes of a
message, and the words that it begins with. A quote cannot be pieced together from several nodes, so
that outside the checks there are those of the dictionary alone. -/
def checkPhrases : List String := ["\"", "Required field "]

/-- The statement that fails for a required field without a value. Scala notes for every required
field whether it was met, and Java looks at the value. -/
def requiredCheck (d : Dialect) (name title wire record : String) : String :=
  match d with
  | scala => "    if (!_got" ++ title ++ ") throw new TProtocolException(\"Required field \" + " ++
      wire ++ " + \" was not found in \" + " ++ record ++ ")\n"
  | java => "    if (result." ++ name ++
      " == null) \x7b\n      throw new TProtocolException(\"Required field \" + " ++ wire ++
      " + \" was not found in \" + " ++ record ++ ");\n    \x7d\n"

/-- From the end of the loop that reads to the value that the reader returns. -/
def conclusion (d : Dialect) (name checks : String) : String :=
  match d with
  | scala => "        \x7d\n        _iprot.readFieldEnd()\n      \x7d\n    \x7d\n" ++
      "    _iprot.readStructEnd()\n\n" ++ checks ++ "    new " ++ name ++ "("
  | java => "      iprot.readFieldEnd();\n    \x7d\n    iprot.readStructEnd();\n" ++ checks ++
      "    return result;\n  \x7d\n\n"

/-- What the template of a struct has for the check of each field. -/
def checkNodes : Dialect → List Node
  | scala => [
    .when "required" [
      .text "    if (!_got", .value "FieldName",
      .text ") throw new TProtocolException(\"Required field \" + ", .value "field_name_for_wire",
      .text " + \" was not found in \" + ", .value "struct_name_for_wire", .text ")\n"]]
  | java => [
    .when "required" [
      .when "nullable" [
        .text "    if (result.", .value "field_name",
        .text " == null) \x7b\n      throw new TProtocolException(\"Required field \" + ",
        .value "field_name_for_wire", .text " + \" was not found in \" + ",
        .value "struct_name_for_wire", .text ");\n    \x7d\n"]]]

/-- What the template of a struct has for `conclusion`. -/
def conclusionNodes : Dialect → List Node
  | scala => [.text "        \x7d\n        _iprot.readFieldEnd()\n      \x7d\n    \x7d\n",
      .text "    _iprot.readStructEnd()\n\n", .when "fields" scala.checkNodes, .text "    new ",
      .value "StructName", .text "("]
  | java => [.text "      iprot.readFieldEnd();\n    \x7d\n    iprot.readStructEnd();\n",
      .when "fields" java.checkNodes, .text "    return result;\n  \x7d\n\n"]

theorem exists_conclusionNodes (d : Dialect) : ∃ pre post,
    d.templates.find? "struct_body" = some (pre ++ (d.conclusionNodes ++ post)) ∧
    ∀ phrase ∈ checkPhrases, ¬ d.templates.Mentions phrase (pre ++ post) := by
  let nodes := (d.spelled.1.lookup "struct_body").getD []
  -- what the nodes mention is evaluated on their spelled form
  have hspelled {before after : List Spelled} (h : checkPhrases.all (fun phrase =>
      !Spelled.mentionsNodes phrase.toList (Spelled.mentions d.spelled.1 phrase.toList 2)
        (before ++ after)) = true) : ∀ phrase ∈ checkPhrases,
      ¬ d.templates.Mentions phrase (Spelled.nodes before ++ Spelled.nodes after) := by
    intro phrase hphrase hmentions
    rw [Spelled.nodes_eq_map, Spelled.nodes_eq_map, ← List.map_append,
      ← Spelled.nodes_eq_map] at hmentions
    have hfree := List.all_eq_true.1 h phrase hphrase
    rw [Spelled.mentionsNodes_of_mentions d.spelled.2 hmentions 2] at hfree
    cases hfree
  cases d with
  | scala =>
    exact ⟨Spelled.nodes (nodes.take 16), Spelled.nodes (nodes.drop 22), rfl,
      hspelled (by decide +kernel)⟩
  | java =>
    exact ⟨Spelled.nodes (nodes.take 23), Spelled.nodes (nodes.drop 26), rfl,
      hspelled (by decide +kernel)⟩

theorem renderNodes_checkNodes {d : Dialect} {insert : String → Renderer} {template : String}
    {scopes : List Dictionary} {name title wire record : String} {required nullable : Bool}
    (hname : resolve scopes "field_name" = some (.code name))
    (htitle : resolve scopes "FieldName" = some (.code title))
    (hwire : resolve scopes "field_name_for_wire" = some (.code wire))
    (hrecord : resolve scopes "struct_name_for_wire" = some (.code record))
    (hrequired : resolve scopes "required" = some (.flag required))
    (hnullable : resolve scopes "nullable" = some (.flag nullable)) :
    renderNodes insert template scopes d.checkNodes =
      .ok (if required ∧ (d = .scala ∨ nullable) then d.requiredCheck name title wire record
        else "") := by
  unfold requiredCheck
  cases d <;> cases required <;> cases nullable <;>
    simp [checkNodes, renderNodes, renderNode_when_flag hrequired, renderNode_when_flag hnullable,
      renderNode_text, renderNode_value hname, renderNode_value htitle, renderNode_value hwire,
      renderNode_value hrecord, bind, Except.bind, String.append_assoc]

theorem renderNodes_conclusionNodes {d : Dialect} {insert : String → Renderer} {template : String}
    {dict : Dictionary} {name text : String} {fields : List Dictionary}
    (hname : resolve [dict] "StructName" = some (.code name))
    (hfields : resolve [dict] "fields" = some (.list fields))
    (h : renderNodes insert template [dict] d.conclusionNodes = .ok text) :
    ∃ checks, text = d.conclusion name (String.join checks) ∧
      List.Forall₂ (fun field check =>
        renderNodes insert template [field, dict] d.checkNodes = .ok check) fields checks := by
  have hvalue : renderNode insert template [dict] (.value "StructName") = .ok name :=
    renderNode_value hname
  unfold conclusion
  cases d with
  | scala =>
    simp only [conclusionNodes, renderNodes_cons_eq_ok, renderNode_text, Except.ok.injEq, hvalue,
      renderNode_list_eq_ok hfields, renderNodes_nil, String.empty_eq_iff, exists_and_left,
      ↓existsAndEq, String.append_empty, true_and, exists_eq_left', and_true] at h
    obtain ⟨checks, hall, rfl⟩ := h
    exact ⟨checks, by simp only [String.append_assoc], hall⟩
  | java =>
    simp only [conclusionNodes, renderNodes_cons_eq_ok, renderNode_text, Except.ok.injEq,
      renderNode_list_eq_ok hfields, renderNodes_nil, String.empty_eq_iff, exists_and_left,
      ↓existsAndEq, String.append_empty, true_and, exists_eq_left', and_true] at h
    obtain ⟨checks, hall, rfl⟩ := h
    exact ⟨checks, by simp only [String.append_assoc], hall⟩

/-- A reader ends with one check for each field that has one, and the template of a struct has
nothing like a check anywhere else. -/
theorem exists_conclusion (d : Dialect) {dict : Dictionary} {name text : String}
    {fields : List Dictionary} (hname : resolve [dict] "StructName" = some (.code name))
    (hfields : resolve [dict] "fields" = some (.list fields))
    (htext : d.templates.render "struct_body" dict = .ok text) :
    ∃ checks before after, text = before ++ d.conclusion name (String.join checks) ++ after ∧
      d.templates.RenderedAround "struct_body" d.conclusionNodes checkPhrases dict before after ∧
      List.Forall₂ (fun field check => ∃ insert template,
        renderNodes insert template [field, dict] d.checkNodes = .ok check) fields checks := by
  obtain ⟨pre, post, hnodes, hsilent⟩ := d.exists_conclusionNodes
  obtain ⟨before, middle, after, hbefore, hmiddle, hafter, rfl⟩ :=
    (TemplateSet.render_eq_ok hnodes).1 htext
  obtain ⟨checks, rfl, hall⟩ := renderNodes_conclusionNodes hname hfields hmiddle
  exact ⟨checks, before, after, rfl, ⟨pre, post, hnodes, hsilent, hbefore, hafter⟩,
    hall.imp fun _ _ hcheck => ⟨_, _, hcheck⟩⟩

end Dialect

/-! ## Structs -/

/-- The check that a reader of a struct has for a field. -/
def Naming.requiredCheck (n : Naming) (r : Record) (f : Field) : String :=
  n.dialect.requiredCheck (n.identifier f.name) (n.identifier f.titleName) (Text.quote f.wireName)
    (Text.quote r.name.name)

/-- An item says nothing about its struct, whose name is found in the scope around it. -/
theorem Field.HasItem.resolve_record {n : Naming} {f : Field} {item outer : Dictionary}
    (h : f.HasItem n item) :
    resolve [item, outer] "struct_name_for_wire" = resolve [outer] "struct_name_for_wire" := by
  have hkeys : ∀ o ∈ Outline.fields, "struct_name_for_wire" ∉ o.map (·.1) := by decide
  obtain ⟨index, d, hd, hmark⟩ := h
  obtain ⟨o, ho, hfit⟩ := dictionary_fits hd
  have hnone : item.get? "struct_name_for_wire" = none := by
    rw [hmark _ (by decide) (by decide), hfit.get?_eq_none (hkeys o ho)]
  simp [resolve, hnone]

theorem Field.check_of_checkNodes {n : Naming} {r : Record} {f : Field} {item outer : Dictionary}
    (hitem : f.HasItem n item)
    (hrecord : resolve [outer] "struct_name_for_wire" = some (.code (Text.quote r.name.name)))
    {insert : String → Renderer} {template text : String}
    (h : renderNodes insert template [item, outer] n.dialect.checkNodes = .ok text) :
    text = if f.isRequired ∧ (n.dialect = .scala ∨ f.ty.isNullable false) then
      n.requiredCheck r f else "" := by
  have hcode {key text : String} (h : item.code? key = some text) :=
    resolve_of_get? (code?_eq_some.1 h) [outer]
  have hflag {key : String} {value : Bool} (h : item.flag? key = some value) :=
    resolve_of_get? (flag?_eq_some.1 h) [outer]
  rw [Dialect.renderNodes_checkNodes (hcode hitem.entries.name) (hcode hitem.entries.title)
    (hcode hitem.declared.wireName) (hitem.resolve_record.trans hrecord)
    (hflag hitem.values.required) (hflag hitem.declared.nullable)] at h
  rw [← Except.ok.inj h, Naming.requiredCheck]
  by_cases hr : f.isRequired = true
  · -- A required field is not optional, so its type alone decides.
    have hoptional : f.isOptional = false := by
      have hrequired : f.requiredness = .required := by simpa [Field.isRequired] using hr
      rw [Field.isOptional, hrequired]
      rfl
    rw [hoptional]
  · rw [if_neg fun h => hr h.1, if_neg fun h => hr h.1]

/-- A reader has its checks between its loop and its result, one field after the other. -/
theorem Record.exists_checks {n : Naming} {r : Record} {dict : Dictionary}
    (h : r.HasDictionary n dict) :
    ∃ checks before after,
      n.dialect.templates.render "struct_body" dict =
        .ok (before ++ n.dialect.conclusion (n.identifier r.name) (String.join checks) ++ after) ∧
      n.dialect.templates.RenderedAround "struct_body" n.dialect.conclusionNodes
        Dialect.checkPhrases dict before after ∧
      List.Forall₂ (fun f check => check =
        if f.isRequired ∧ (n.dialect = .scala ∨ f.ty.isNullable false) then n.requiredCheck r f
        else "") r.fields checks := by
  obtain ⟨text, htext⟩ := h.exists_text
  obtain ⟨hname, hrecord, items, hlist, hitems⟩ := h.exists_items
  obtain ⟨checks, before, after, rfl, haround, hall⟩ :=
    n.dialect.exists_conclusion hname hlist htext
  refine ⟨checks, before, after, htext, haround, ?_⟩
  refine forall₂_join (List.Forall₂.flip hitems) hall ?_
  rintro item f check (hitem : f.HasItem n item) ⟨insert, template, hcheck⟩
  exact Field.check_of_checkNodes hitem hrecord hcheck

/-- Items without a text leave nothing behind in what is joined. -/
theorem join_eq_join_filter {α : Type} {p : α → Prop} [DecidablePred p] {f : α → String}
    {xs : List α} {texts : List String}
    (h : List.Forall₂ (fun x text => text = if p x then f x else "") xs texts) :
    String.join texts = String.join ((xs.filter p).map f) := by
  induction h with
  | nil => rfl
  | @cons x text xs texts htext _ ih =>
    rw [htext, String.join_cons, ih, List.filter_cons]
    by_cases hp : p x
    · rw [if_pos hp, if_pos (decide_eq_true hp), List.map_cons, String.join_cons]
    · rw [if_neg hp, if_neg (by simp [hp]), String.empty_append]

/-- After its loop a reader in Scala checks every required field, in the order of the fields, and
no other. A reader in Java does so but for the fields whose type is a scalar of a fixed width: null
cannot tell that such a field is missing. No other part of the template has what a check is made
of. -/
theorem Record.required_checks {n : Naming} {r : Record} {dict : Dictionary}
    (h : r.HasDictionary n dict) :
    ∃ before after,
      n.dialect.templates.render "struct_body" dict =
        .ok (before ++
          n.dialect.conclusion (n.identifier r.name) (String.join ((r.fields.filter fun f =>
            f.isRequired ∧ (n.dialect = .scala ∨ f.ty.isNullable false)).map
              (n.requiredCheck r))) ++
          after) ∧
      n.dialect.templates.RenderedAround "struct_body" n.dialect.conclusionNodes
        Dialect.checkPhrases dict before after := by
  obtain ⟨checks, before, after, hrender, haround, hall⟩ := Record.exists_checks h
  rw [join_eq_join_filter hall] at hrender
  exact ⟨before, after, hrender, haround⟩

/-- A point whose label is required and whose scale is not. -/
theorem Record.required_checks_point :
    let n : Naming := ⟨.java, []⟩
    let r : Record := ⟨.simple "Point", .struct,
      [⟨1, .simple "label", "Label", .string, .required, none⟩,
        ⟨2, .simple "scale", "scale", .double, .unmarked, none⟩]⟩
    ∃ dict before after, r.body n = .ok dict ∧
      javaTemplates.render "struct_body" dict = .ok (before ++ Dialect.java.conclusion "Point"
        (Dialect.java.requiredCheck "label" "Label" "\"Label\"" "\"Point\"") ++ after) ∧
      javaTemplates.RenderedAround "struct_body" Dialect.java.conclusionNodes
        Dialect.checkPhrases dict before after := by
  intro n r
  have hnone : fault? (r.body n) = none := by decide +kernel
  have hname : n.identifier (.simple "Point") = "Point" := by decide +kernel
  have hchecks : String.join ((r.fields.filter fun f =>
      f.isRequired ∧ (n.dialect = .scala ∨ f.ty.isNullable false)).map (n.requiredCheck r)) =
        Dialect.java.requiredCheck "label" "Label" "\"Label\"" "\"Point\"" := by decide +kernel
  obtain ⟨dict, hdict⟩ := fault?_eq_none.1 hnone
  obtain ⟨before, after, hrender, haround⟩ := required_checks (.inl hdict)
  rw [hchecks, hname] at hrender
  exact ⟨dict, before, after, hdict, hrender, haround⟩

/-- In Java a reader of a struct with a required number has nothing between its loop and its
result, where a check would be. -/
theorem Record.required_checks_counter_java :
    let n : Naming := ⟨.java, []⟩
    let r : Record := ⟨.simple "Counter", .struct,
      [⟨1, .simple "count", "count", .i32, .required, none⟩]⟩
    ∃ dict before after, r.body n = .ok dict ∧ javaTemplates.render "struct_body" dict =
        .ok (before ++ Dialect.java.conclusion "Counter" "" ++ after) ∧
      javaTemplates.RenderedAround "struct_body" Dialect.java.conclusionNodes
        Dialect.checkPhrases dict before after := by
  intro n r
  have hnone : fault? (r.body n) = none := by decide +kernel
  have hname : n.identifier (.simple "Counter") = "Counter" := by decide +kernel
  obtain ⟨dict, hdict⟩ := fault?_eq_none.1 hnone
  obtain ⟨checks, before, after, hrender, haround, hall⟩ := Record.exists_checks (.inl hdict)
  obtain ⟨check, rfl, hcheck⟩ := forall₂_singleton_left_iff.1 hall
  rw [if_neg (by decide)] at hcheck
  refine ⟨dict, before, after, hdict, hrender.trans ?_, haround⟩
  rw [hname, hcheck]
  rfl

end StubForge
