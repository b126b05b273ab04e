import StubForge.Proofs.Outcome
import StubForge.Proofs.Text.Indentation
import StubForge.Template.Render

/-! The text of a template part by part: that of nodes in a row, and that of a section over a list,
once for each item. -/
namespace StubForge.Template

theorem concat_eq_ok {parts : List (Except RenderFault String)} {text : String} :
    concat parts = .ok text ↔
      ∃ texts, List.Forall₂ (fun p t => p = .ok t) parts texts ∧ text = String.join texts := by
  induction parts generalizing text with
  | nil => simp [concat, eq_comm]
  | cons p r ih =>
    simp only [concat, bind_eq_ok, ih, List.forall₂_cons_left_iff, Except.ok.injEq]
    constructor
    · rintro ⟨a, ha, b, ⟨texts, htexts, rfl⟩, rfl⟩
      exact ⟨a :: texts, ⟨a, texts, ha, htexts, rfl⟩, String.join_cons.symm⟩
    · rintro ⟨_, ⟨a, texts, ha, htexts, rfl⟩, rfl⟩
      exact ⟨a, ha, String.join texts, ⟨texts, htexts, rfl⟩, String.join_cons.symm⟩

theorem concat_eq_error {parts : List (Except RenderFault String)} {fault : RenderFault} :
    concat parts = .error fault ↔
      ∃ (texts : List String) (after : List (Except RenderFault String)),
        parts = texts.map .ok ++ .error fault :: after := by
  induction parts with
  | nil => simp [concat]
  | cons p r ih =>
    cases p with
    | error f =>
      constructor
      · intro h
        cases h
        exact ⟨[], r, rfl⟩
      · rintro ⟨texts, after, h⟩
        cases texts <;> cases h
        rfl
    | ok text =>
      have hrest : concat (.ok text :: r) = .error fault ↔ concat r = .error fault := by
        cases hr : concat r <;> simp [concat, hr, bind, Except.bind]
      rw [hrest, ih]
      constructor
      · rintro ⟨texts, after, rfl⟩
        exact ⟨text :: texts, after, rfl⟩
      · rintro ⟨texts, after, h⟩
        cases texts with
        | nil => cases h
        | cons t texts => exact ⟨texts, after, (List.cons.inj h).2⟩

theorem concat_append (front back : List (Except RenderFault String)) :
    concat (front ++ back) = (do
      let a ← concat front
      let b ← concat back
      .ok (a ++ b)) := by
  induction front with
  | nil => cases h : concat back <;> simp [concat, h, bind, Except.bind]
  | cons p r ih =>
    rw [List.cons_append, concat, concat, ih]
    cases p with
    | error f => rfl
    | ok a =>
      cases concat r with
      | error f => rfl
      | ok b =>
        cases concat back with
        | error f => rfl
        | ok c => simp [bind, Except.bind, String.append_assoc]

/-- Parts of parts are parts. -/
theorem concat_flatten (parts : List (List (Except RenderFault String))) :
    concat parts.flatten = concat (parts.map concat) := by
  induction parts with
  | nil => rfl
  | cons p r ih => rw [List.flatten_cons, concat_append, ih, List.map_cons, concat]

theorem concat_singleton (part : Except RenderFault String) : concat [part] = part := by
  cases part <;> simp [concat, bind, Except.bind]

theorem resolve_of_get? {d : Dictionary} {key : String} {e : Entry} (h : d.get? key = some e)
    (outer : List Dictionary) : resolve (d :: outer) key = some e := by simp [resolve, h]

variable {insert : String → Renderer} {template : String} {scopes : List Dictionary}
  {text : String}

theorem renderNodes_nil : renderNodes insert template scopes [] = .ok "" := rfl

theorem renderNodes_singleton (n : Node) :
    renderNodes insert template scopes [n] = renderNode insert template scopes n := by
  rw [renderNodes]
  cases renderNode insert template scopes n <;> simp [renderNodes, bind, Except.bind]

theorem renderNodes_eq_concat (nodes : List Node) : renderNodes insert template scopes nodes =
    concat (nodes.map (renderNode insert template scopes)) := by
  induction nodes with
  | nil => rfl
  | cons n r ih => rw [renderNodes, ih, List.map_cons, concat]

theorem renderNode_text (t : String) : renderNode insert template scopes (.text t) = .ok t := rfl

theorem renderNode_value {key : String} (h : resolve scopes key = some (.code text)) :
    renderNode insert template scopes (.value key) = .ok text := by rw [renderNode, h]

/-- Without a margin the text of the inserted template is not changed. -/
theorem renderNode_insertion_empty (name : String) :
    renderNode insert template scopes (.insertion name "") = insert template name scopes := by
  rw [renderNode, Text.indent_empty]
  cases insert template name scopes <;> rfl

/-- A section under a flag is its body or nothing. -/
theorem renderNode_when_flag {key : String} {b : Bool} (h : resolve scopes key = some (.flag b))
    (children : List Node) : renderNode insert template scopes (.when key children) =
      if b then renderNodes insert template scopes children else .ok "" := by
  simp only [renderNode, h, repetitions, holds]
  cases b with
  | false => rfl
  | true => exact concat_singleton _

theorem renderNode_unless_flag {key : String} {b : Bool} (h : resolve scopes key = some (.flag b))
    (children : List Node) : renderNode insert template scopes (.unless key children) =
      if b then .ok "" else renderNodes insert template scopes children := by
  simp only [renderNode, h, holds]

theorem renderNodes_cons_eq_ok {n : Node} {r : List Node} :
    renderNodes insert template scopes (n :: r) = .ok text ↔
      ∃ a b, renderNode insert template scopes n = .ok a ∧
        renderNodes insert template scopes r = .ok b ∧ text = a ++ b := by
  simp only [renderNodes, bind_eq_ok, Except.ok.injEq, ← exists_and_left, eq_comm (a := text)]

theorem renderNodes_append (xs ys : List Node) :
    renderNodes insert template scopes (xs ++ ys) = concat
      [renderNodes insert template scopes xs, renderNodes insert template scopes ys] := by
  have hparts := concat_flatten
    [xs.map (renderNode insert template scopes), ys.map (renderNode insert template scopes)]
  simpa only [renderNodes_eq_concat, List.map_append, List.flatten_cons, List.flatten_nil,
    List.append_nil, List.map_cons, List.map_nil] using hparts

theorem renderNodes_append_eq_ok {xs ys : List Node} :
    renderNodes insert template scopes (xs ++ ys) = .ok text ↔
      ∃ a b, renderNodes insert template scopes xs = .ok a ∧
        renderNodes insert template scopes ys = .ok b ∧ text = a ++ b := by
  simp only [renderNodes_eq_concat, List.map_append, concat_append, bind_eq_ok, Except.ok.injEq,
    ← exists_and_left, eq_comm (a := text)]

/-- A section over a list is its body once for each item, in the scope of the item. -/
theorem renderNode_list_eq_ok {key : String} {items : List Dictionary}
    (h : resolve scopes key = some (.list items)) {children : List Node} :
    renderNode insert template scopes (.when key children) = .ok text ↔
      ∃ texts, List.Forall₂ (fun d t => renderNodes insert template (d :: scopes) children = .ok t)
        items texts ∧ text = String.join texts := by
  simp only [renderNode, h, repetitions, concat_eq_ok, List.forall₂_map_left_iff]

/-- The text of some of the nodes of the template `name`, in which insertions are one deeper than
the template itself. -/
def TemplateSet.renderPart (set : TemplateSet) (name : String) (d : Dictionary)
    (nodes : List Node) : Except RenderFault String :=
  renderNodes (set.renderWithin (set.maxDepth - 1)) name [d] nodes

/-- A template is rendered part by part. -/
theorem TemplateSet.render_eq_ok {set : TemplateSet} {name : String}
    {before middle after : List Node} (hname : set.find? name = some (before ++ (middle ++ after)))
    {d : Dictionary} : set.render name d = .ok text ↔
      ∃ front part back, set.renderPart name d before = .ok front ∧
        set.renderPart name d middle = .ok part ∧ set.renderPart name d after = .ok back ∧
        text = front ++ part ++ back := by
  have hdepth : set.maxDepth = set.maxDepth - 1 + 1 := rfl
  rw [TemplateSet.render, hdepth, TemplateSet.renderWithin, hname]
  constructor
  · intro h
    obtain ⟨front, rest, hfront, hrest, rfl⟩ := renderNodes_append_eq_ok.1 h
    obtain ⟨part, back, hpart, hback, rfl⟩ := renderNodes_append_eq_ok.1 hrest
    exact ⟨front, part, back, hfront, hpart, hback, String.append_assoc.symm⟩
  · rintro ⟨front, part, back, hfront, hpart, hback, rfl⟩
    have hrest := renderNodes_append_eq_ok.2 ⟨part, back, hpart, hback, rfl⟩
    exact renderNodes_append_eq_ok.2 ⟨front, _, hfront, hrest, String.append_assoc⟩

/-- A section over a list cuts the text of a template: what stands before it, a part for each item
in the scope of the item, and what stands after it. -/
theorem TemplateSet.render_cut {set : TemplateSet} {name key : String} {before after : List Node}
    {children : List Node} (hname : set.find? name = some (before ++ .when key children :: after))
    {d : Dictionary} {items : List Dictionary} (hitems : d.get? key = some (.list items))
    (h : set.render name d = .ok text) :
    ∃ front parts back, text = front ++ String.join parts ++ back ∧
      List.Forall₂ (fun item part =>
        renderNodes (set.renderWithin (set.maxDepth - 1)) name [item, d] children = .ok part)
        items parts := by
  have hmiddle : before ++ .when key children :: after =
      before ++ ([.when key children] ++ after) := rfl
  rw [hmiddle] at hname
  obtain ⟨front, middle, back, -, hpart, -, rfl⟩ := (render_eq_ok hname).1 h
  rw [renderPart, renderNodes_singleton, renderNode_list_eq_ok (resolve_of_get? hitems [])] at hpart
  obtain ⟨parts, hparts, rfl⟩ := hpart
  exact ⟨front, parts, back, rfl, hparts⟩

end StubForge.Template
