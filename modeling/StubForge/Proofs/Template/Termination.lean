import Mathlib.Data.Finset.Card
import Mathlib.Data.List.Dedup
import Mathlib.Logic.Relation
import StubForge.Generation.Construct
import StubForge.Proofs.Template.Parts

/-! Templates come to an end: where no template inserts itself, directly or through others, there is
a limit to the calls inside one another that a template takes, whatever the dictionary. -/
namespace StubForge.Template

/-! ## Insertions and sections -/

mutual

/-- The templates that a node inserts, however deep in its sections. -/
def Node.insertions : Node → List String
  | .block _ _ children => Node.insertionsAll children
  | .insertion name _ => [name]
  | _ => []

def Node.insertionsAll : List Node → List String
  | [] => []
  | n :: r => n.insertions ++ Node.insertionsAll r

end

mutual

/-- How many sections of a node are inside one another. -/
def Node.nesting : Node → Nat
  | .block _ _ children => Node.nestingAll children + 1
  | _ => 0

def Node.nestingAll : List Node → Nat
  | [] => 0
  | n :: r => max n.nesting (Node.nestingAll r)

end

open Node (insertionsAll nestingAll)

theorem mem_insertionsAll {nodes : List Node} {name : String} :
    name ∈ insertionsAll nodes ↔ ∃ n ∈ nodes, name ∈ n.insertions := by
  induction nodes with
  | nil => simp [insertionsAll]
  | cons n r ih => simp [insertionsAll, ih]

theorem nestingAll_le_iff {nodes : List Node} {k : Nat} :
    nestingAll nodes ≤ k ↔ ∀ n ∈ nodes, n.nesting ≤ k := by
  induction nodes with
  | nil => simp [nestingAll]
  | cons n r ih => simp [nestingAll, ih]

namespace TemplateSet

/-- A template has an insertion of another one of the set. -/
def Inserts (set : TemplateSet) (name inserted : String) : Prop :=
  ∃ nodes, set.find? name = some nodes ∧ inserted ∈ insertionsAll nodes ∧
    set.contains inserted = true

/-- No template inserts itself, directly or through others. -/
def Acyclic (set : TemplateSet) : Prop := ∀ name, ¬ Relation.TransGen set.Inserts name name

/-- Insertions that lead down cannot return. -/
theorem acyclic_of_lt {set : TemplateSet} (layer : String → Nat)
    (h : ∀ name inserted, set.Inserts name inserted → layer inserted < layer name) :
    set.Acyclic := by
  intro name hcycle
  have hlt {a b : String} (hab : Relation.TransGen set.Inserts a b) : layer b < layer a := by
    induction hab with
    | single hab => exact h _ _ hab
    | tail _ hbc ih => exact (h _ _ hbc).trans ih
  exact Nat.lt_irrefl _ (hlt hcycle)

/-- How many sections of a template are inside one another at most. -/
def nesting (set : TemplateSet) : Nat := nestingAll (set.templates.flatMap (·.2))

/-- A limit to the calls inside one another: those for the sections of a template, and no more than
that for each template that can be inserted in it. -/
def maxCalls (set : TemplateSet) : Nat := (set.templates.length + 1) * (set.nesting + 1)

theorem mem_templates_of_find? {set : TemplateSet} {name : String} {nodes : List Node}
    (h : set.find? name = some nodes) : (name, nodes) ∈ set.templates := by
  obtain ⟨before, after, htemplates, -⟩ := List.lookup_eq_some_iff.1 h
  simp [htemplates]

theorem nestingAll_le_nesting {set : TemplateSet} {name : String} {nodes : List Node}
    (h : set.find? name = some nodes) : nestingAll nodes ≤ set.nesting :=
  nestingAll_le_iff.2 fun n hn => nestingAll_le_iff.1 (Nat.le_refl set.nesting) n <|
    List.mem_flatMap.2 ⟨_, mem_templates_of_find? h, hn⟩

theorem acyclic_of_templates {set : TemplateSet} (layer : String → Nat)
    (h : ∀ t ∈ set.templates, ∀ inserted ∈ insertionsAll t.2, layer inserted < layer t.1) :
    set.Acyclic := by
  refine acyclic_of_lt layer ?_
  rintro name inserted ⟨nodes, hfind, hinserted, -⟩
  exact h _ (mem_templates_of_find? hfind) inserted hinserted

/-! ## Ranks -/

open Classical in
/-- The templates that a template inserts, directly or through others. -/
noncomputable def reach (set : TemplateSet) (name : String) : Finset String :=
  (set.templates.map (·.1)).toFinset.filter (Relation.TransGen set.Inserts name)

theorem mem_reach {set : TemplateSet} {name inserted : String} :
    inserted ∈ set.reach name ↔ Relation.TransGen set.Inserts name inserted := by
  have hname (h : Relation.TransGen set.Inserts name inserted) :
      inserted ∈ set.templates.map (·.1) := by
    obtain ⟨last, -, nodes, -, -, hcontains⟩ := Relation.TransGen.tail'_iff.1 h
    obtain ⟨nodes', hfind⟩ := Option.isSome_iff_exists.1 hcontains
    exact List.mem_map.2 ⟨_, mem_templates_of_find? hfind, rfl⟩
  simp only [reach, Finset.mem_filter, List.mem_toFinset]
  exact ⟨And.right, fun h => ⟨hname h, h⟩⟩

/-- How many templates a template leads to. -/
noncomputable def rank (set : TemplateSet) (name : String) : Nat := (set.reach name).card

theorem rank_le (set : TemplateSet) (name : String) : set.rank name ≤ set.templates.length := by
  classical
  calc set.rank name ≤ (set.templates.map (·.1)).toFinset.card :=
        Finset.card_le_card (Finset.filter_subset _ _)
    _ ≤ (set.templates.map (·.1)).length := List.toFinset_card_le _
    _ = set.templates.length := List.length_map _

/-- What a template inserts leads to fewer templates: it no longer leads to itself. -/
theorem rank_lt {set : TemplateSet} (hset : set.Acyclic) {name inserted : String}
    (h : set.Inserts name inserted) : set.rank inserted < set.rank name := by
  refine Finset.card_lt_card (Finset.ssubset_iff_of_subset ?_ |>.2 ⟨inserted, ?_, ?_⟩)
  · exact fun other hother => mem_reach.2 (.head h (mem_reach.1 hother))
  · exact mem_reach.2 (.single h)
  · exact fun hself => hset inserted (mem_reach.1 hself)

/-! ## Calls -/

/-- How nodes of the template of a name are rendered in a stack of scopes. -/
abbrev Call := String → List Dictionary → List Node → Except RenderFault String

/-- A node of the template `template`. Each time that the body of a section is rendered and for each
insertion there is a call; a text and a value need none. -/
def callNode (set : TemplateSet) (call : Call) (template : String) (scopes : List Dictionary) :
    Node → Except RenderFault String
  | .text text => .ok text
  | .value key => renderNode (set.renderWithin 0) template scopes (.value key)
  | .block key true children =>
    if holds (resolve scopes key) then .ok "" else call template scopes children
  | .block key false children =>
    concat ((repetitions scopes (resolve scopes key)).map fun scopes =>
      call template scopes children)
  | .insertion name margin =>
    match set.find? name with
    | none => .error ⟨template, .missing name set.dialect⟩
    | some nodes => (call name scopes nodes).map (Text.indent margin)

/-- Nodes with at most `limit` calls inside one another, their own among them. -/
def callWithin (set : TemplateSet) : Nat → Call
  | 0, template, _, _ => .error ⟨template, .tooDeep⟩
  | limit + 1, template, scopes, nodes =>
    concat (nodes.map (set.callNode (set.callWithin limit) template scopes))

/-- A template with at most `limit` calls inside one another. -/
def renderCalls (set : TemplateSet) (limit : Nat) (name : String) (d : Dictionary) :
    Except RenderFault String :=
  match set.find? name with
  | none => .error ⟨name, .missing name set.dialect⟩
  | some nodes => set.callWithin limit name [d] nodes

/-- The limit is enough for nodes: for their sections, and for templates of lower rank. -/
structure Fits (set : TemplateSet) (nodes : List Node) (rank limit : Nat) : Prop where
  rank_lt : ∀ name ∈ insertionsAll nodes, set.contains name = true → set.rank name < rank
  calls_lt : nestingAll nodes + rank * (set.nesting + 1) < limit

theorem Fits.of_mem {set : TemplateSet} {nodes : List Node} {rank limit : Nat}
    (h : set.Fits nodes rank limit) {n : Node} (hn : n ∈ nodes) : set.Fits [n] rank limit where
  rank_lt name hname := by
    obtain ⟨m, hm, hname⟩ := mem_insertionsAll.1 hname
    cases List.mem_singleton.1 hm
    exact h.rank_lt name (mem_insertionsAll.2 ⟨n, hn, hname⟩)
  calls_lt := by
    have hle := nestingAll_le_iff.1 (Nat.le_refl (nestingAll nodes)) n hn
    have hlt := h.calls_lt
    simp only [nestingAll]
    omega

theorem Fits.children {set : TemplateSet} {key : String} {inverted : Bool} {children : List Node}
    {rank limit : Nat} (h : set.Fits [.block key inverted children] rank (limit + 1)) :
    set.Fits children rank limit where
  rank_lt name hname := h.rank_lt name (by simpa [insertionsAll, Node.insertions] using hname)
  calls_lt := by
    have hlt := h.calls_lt
    simp only [nestingAll, Node.nesting] at hlt
    omega

theorem fits_of_find? {set : TemplateSet} (hset : set.Acyclic) {name : String} {nodes : List Node}
    (hname : set.find? name = some nodes) {limit : Nat}
    (hlimit : (set.rank name + 1) * (set.nesting + 1) ≤ limit) :
    set.Fits nodes (set.rank name) limit where
  rank_lt inserted hinserted hcontains := rank_lt hset ⟨nodes, hname, hinserted, hcontains⟩
  calls_lt := by
    have hle := nestingAll_le_nesting hname
    rw [Nat.succ_mul] at hlimit
    omega

/-- A template that is inserted has a lower rank and so needs fewer calls. -/
theorem Fits.inserted {set : TemplateSet} (hset : set.Acyclic) {name margin : String}
    {rank limit : Nat} (h : set.Fits [.insertion name margin] rank (limit + 1)) {nodes : List Node}
    (hname : set.find? name = some nodes) :
    set.rank name < rank ∧ set.Fits nodes (set.rank name) limit := by
  have hlt : set.rank name < rank :=
    h.rank_lt name (by simp [insertionsAll, Node.insertions]) (by simp [contains, hname])
  refine ⟨hlt, fits_of_find? hset hname ?_⟩
  have hmul : (set.rank name + 1) * (set.nesting + 1) ≤ rank * (set.nesting + 1) :=
    Nat.mul_le_mul_right _ hlt
  have hcalls := h.calls_lt
  omega

/-! ## Runs with enough calls -/

/-- A result that is not for lack of calls. -/
def Ends (result : Except RenderFault String) : Prop :=
  ∀ source, result ≠ .error ⟨source, .tooDeep⟩

theorem ends_ok (text : String) : Ends (.ok text) := nofun

theorem ends_error {problem : Problem} (h : problem ≠ .tooDeep) (template : String) :
    Ends (.error ⟨template, problem⟩) := by
  intro source heq
  cases heq
  exact h rfl

theorem Ends.map {result : Except RenderFault String} (h : Ends result) (f : String → String) :
    Ends (result.map f) := by
  cases result with
  | ok text => exact ends_ok (f text)
  | error fault => exact h

theorem Ends.bind {result : Except RenderFault String} (h : Ends result)
    {f : String → Except RenderFault String} (hf : ∀ text, Ends (f text)) : Ends (result >>= f) := by
  cases result with
  | ok text => exact hf text
  | error fault => exact h

theorem ends_concat {parts : List (Except RenderFault String)} (h : ∀ p ∈ parts, Ends p) :
    Ends (concat parts) := by
  induction parts with
  | nil => exact ends_ok ""
  | cons p r ih =>
    obtain ⟨hp, hr⟩ := List.forall_mem_cons.1 h
    rw [concat]
    exact hp.bind fun text => (ih hr).bind fun rest => ends_ok (text ++ rest)

section
variable {set : TemplateSet} (hset : set.Acyclic)
include hset

/-- With enough calls nodes are rendered as without a limit to them. -/
theorem callWithin_eq {nodes : List Node} {rank limit depth : Nat}
    (hfits : set.Fits nodes rank limit) (hdepth : rank < depth) (template : String)
    (scopes : List Dictionary) :
    set.callWithin limit template scopes nodes =
      renderNodes (set.renderWithin depth) template scopes nodes := by
  -- every call lowers the limit; a section keeps the rank, an insertion lowers it
  induction limit generalizing nodes rank depth template scopes with
  | zero => exact absurd hfits.calls_lt (Nat.not_lt_zero _)
  | succ limit ih =>
    rw [callWithin, renderNodes_eq_concat]
    refine congrArg concat (List.map_congr_left fun n hn => ?_)
    have hfits := hfits.of_mem hn
    cases n with
    | text t => rfl
    | value key => rfl
    | block key inverted children =>
      have hchildren := ih hfits.children hdepth template
      cases inverted with
      | true => rw [callNode, renderNode, hchildren]
      | false => simp only [callNode, renderNode, hchildren]
    | insertion name margin =>
      obtain ⟨depth, rfl⟩ : ∃ d, depth = d + 1 := ⟨depth - 1, by omega⟩
      rw [callNode, renderNode, renderWithin]
      cases hname : set.find? name with
      | none => rfl
      | some inserted =>
        obtain ⟨hlt, hinserted⟩ := hfits.inserted hset hname
        have hdepth : set.rank name < depth := by omega
        simp only [ih hinserted hdepth]

/-- With enough calls nodes come to an end. -/
theorem ends_callWithin {nodes : List Node} {rank limit : Nat} (hfits : set.Fits nodes rank limit)
    (template : String) (scopes : List Dictionary) :
    Ends (set.callWithin limit template scopes nodes) := by
  induction limit generalizing nodes rank template scopes with
  | zero => exact absurd hfits.calls_lt (Nat.not_lt_zero _)
  | succ limit ih =>
    rw [callWithin]
    refine ends_concat (List.forall_mem_map.2 fun n hn => ?_)
    have hfits := hfits.of_mem hn
    cases n with
    | text t => exact ends_ok t
    | value key =>
      rw [callNode, renderNode]
      split
      · exact ends_ok _
      · exact ends_ok _
      · exact ends_error (by simp) template
      · exact ends_error (by simp) template
    | block key inverted children =>
      have hchildren := ih hfits.children template
      cases inverted with
      | true =>
        rw [callNode]
        split
        · exact ends_ok ""
        · exact hchildren scopes
      | false =>
        rw [callNode]
        exact ends_concat (List.forall_mem_map.2 fun inner _ => hchildren inner)
    | insertion name margin =>
      rw [callNode]
      cases hname : set.find? name with
      | none => exact ends_error (by simp) template
      | some inserted => exact (ih (hfits.inserted hset hname).2 name scopes).map _

variable {limit : Nat} (hlimit : set.maxCalls ≤ limit)
include hlimit

theorem fits_of_maxCalls_le {name : String} {nodes : List Node}
    (hname : set.find? name = some nodes) : set.Fits nodes (set.rank name) limit := by
  have hrank := Nat.add_le_add_right (set.rank_le name) 1
  exact fits_of_find? hset hname ((Nat.mul_le_mul_right _ hrank).trans hlimit)

theorem renderCalls_eq_render (name : String) (d : Dictionary) :
    set.renderCalls limit name d = set.render name d := by
  have hdepth : set.maxDepth = set.templates.length + 9999 + 1 := rfl
  rw [renderCalls, render, hdepth, renderWithin]
  cases hname : set.find? name with
  | none => rfl
  | some nodes =>
    have hrank : set.rank name < set.templates.length + 9999 :=
      (set.rank_le name).trans_lt (by omega)
    exact callWithin_eq hset (fits_of_maxCalls_le hset hlimit hname) hrank name [d]

theorem ends_renderCalls (name : String) (d : Dictionary) : Ends (set.renderCalls limit name d) := by
  rw [renderCalls]
  cases hname : set.find? name with
  | none => exact ends_error (by simp) name
  | some nodes => exact ends_callWithin hset (fits_of_maxCalls_le hset hlimit hname) name [d]

end

end TemplateSet

/-! ## Embedded templates -/

/-- Where a template stands among those that insert one another, the inserted ones below. -/
def layer (name : String) : Nat :=
  if ["consts", "struct", "union", "service"].contains name then 2
  else if name = "struct_body" then 1
  else 0

theorem acyclic_templates (dialect : Dialect) : dialect.templates.Acyclic := by
  refine TemplateSet.acyclic_of_templates layer ?_
  cases dialect <;> decide +kernel

/-- No embedded template inserts itself, and where none does a template comes to an end within a
number of calls that its set decides: more calls change nothing. -/
theorem rendering_ends :
    (∀ dialect : Dialect, dialect.templates.Acyclic) ∧
    ∀ set : TemplateSet, set.Acyclic → ∀ (name : String) (d : Dictionary) (limit : Nat),
      set.maxCalls ≤ limit →
        set.renderCalls limit name d = set.renderCalls set.maxCalls name d ∧
        set.renderCalls limit name d = set.render name d ∧
        ∀ source, set.renderCalls limit name d ≠ .error ⟨source, .tooDeep⟩ := by
  refine ⟨acyclic_templates, fun set hset name d limit hlimit => ⟨?_, ?_, ?_⟩⟩
  · rw [set.renderCalls_eq_render hset hlimit, set.renderCalls_eq_render hset le_rfl]
  · exact set.renderCalls_eq_render hset hlimit name d
  · exact set.ends_renderCalls hset hlimit name d

/-- A hundred calls inside one another are enough for a file of constants. -/
theorem rendering_ends_consts :
    scalaTemplates.Acyclic ∧ scalaTemplates.maxCalls ≤ 100 ∧
      scalaTemplates.renderCalls 100 "consts" [("package", .code "p"),
          ("imports", .list [[("parent_package", .code "q"), ("sub_package", .code "r"),
            ("alias", .code "R")]]),
          ("constants", .list [[("name", .code "A"), ("field_type", .code "Int"),
            ("value", .code "1")]])] =
        .ok ("package p\n\nimport scala.collection.mutable\nimport q.\x7b r => R \x7d\n\n" ++
          "object Constants \x7b\n  val A: Int = 1\n\x7d\n") := by
  have hacyclic : scalaTemplates.Acyclic := rendering_ends.1 .scala
  have hcalls : scalaTemplates.maxCalls ≤ 100 := by decide +kernel
  refine ⟨hacyclic, hcalls, ?_⟩
  rw [(rendering_ends.2 scalaTemplates hacyclic _ _ 100 hcalls).2.1]
  decide +kernel

end StubForge.Template
