import Mathlib.Data.List.Forall2
import StubForge.Template.Render

/-! Outlines of dictionaries, and a check of templates against them. A template that passes
renders with every dictionary of its outline: each key it interpolates is found in scope with a
text or a flag, and each template it inserts is there. -/
namespace StubForge.Template

/-- The kind of an entry. The value of a flag may be known, and each item of a list has one of a
few outlines. -/
inductive Shape
  | code
  | flag (known : Option Bool)
  | dict (entries : List (String × Shape))
  | list (alternatives : List (List (String × Shape)))
  deriving Repr

/-- The keys of a dictionary in their order, each with the kind of its entry. -/
abbrev Outline := List (String × Shape)

namespace Outline

def get? (o : Outline) (key : String) : Option Shape :=
  match o with
  | [] => none
  | (k, s) :: r => if k = key then some s else get? r key

theorem get?_append (o q : Outline) (key : String) :
    get? (o ++ q) key = (o.get? key).or (q.get? key) := by
  induction o with
  | nil => rfl
  | cons s o ih => by_cases h : s.1 = key <;> simp [get?, h, ih]

theorem get?_eq_none {o : Outline} {key : String} (h : key ∉ o.map (·.1)) :
    o.get? key = none := by
  induction o with
  | nil => rfl
  | cons s o ih =>
    rw [List.map_cons, List.mem_cons, not_or] at h
    rw [get?, if_neg (Ne.symm h.1), ih h.2]

end Outline

mutual

def Fits : Entry → Shape → Prop
  | .code _, .code => True
  | .flag value, .flag known => known = none ∨ known = some value
  | .dict entries, .dict shapes => FitsAll entries shapes
  | .list items, .list alternatives => FitsEach items alternatives
  | _, _ => False

/-- The same keys in the same order, and under each an entry of the shape. -/
def FitsAll : List (String × Entry) → List (String × Shape) → Prop
  | [], [] => True
  | (k, e) :: d, (key, s) :: o => k = key ∧ Fits e s ∧ FitsAll d o
  | _, _ => False

def FitsEach : List (List (String × Entry)) → List (List (String × Shape)) → Prop
  | [], _ => True
  | d :: r, alternatives => (∃ o ∈ alternatives, FitsAll d o) ∧ FitsEach r alternatives

end

theorem fitsEach_iff {items : List Dictionary} {alternatives : List Outline} :
    FitsEach items alternatives ↔ ∀ d ∈ items, ∃ o ∈ alternatives, FitsAll d o := by
  induction items with
  | nil => simp [FitsEach]
  | cons d r ih => simp [FitsEach, ih]

theorem FitsAll.append {d e : Dictionary} {o q : Outline} (hd : FitsAll d o) (he : FitsAll e q) :
    FitsAll (d ++ e) (o ++ q) := by
  induction d generalizing o with
  | nil => cases o with
    | nil => exact he
    | cons s o => exact hd.elim
  | cons p d ih => cases o with
    | nil => exact hd.elim
    | cons s o => exact ⟨hd.1, hd.2.1, ih hd.2.2⟩

theorem FitsAll.insert {d : Dictionary} {o : Outline} (h : FitsAll d o) {key : String} {e : Entry}
    {s : Shape} (hkey : o.get? key = none) (he : Fits e s) :
    FitsAll (d.insert key e) (o ++ [(key, s)]) := by
  induction d generalizing o with
  | nil => cases o with
    | nil => exact ⟨rfl, he, trivial⟩
    | cons p o => exact h.elim
  | cons q d ih => cases o with
    | nil => exact h.elim
    | cons p o =>
      obtain ⟨hk, hq, hr⟩ := h
      have hne : p.1 ≠ key := by
        intro hp
        simp [Outline.get?, hp] at hkey
      simp only [Dictionary.insert, hk, hne, if_false]
      refine ⟨rfl, hq, ih hr ?_⟩
      simpa [Outline.get?, hne] using hkey

/-- What a key leads to in a dictionary and in its outline: nothing in both, or an entry of the
shape. -/
theorem FitsAll.get? {d : Dictionary} {o : Outline} (h : FitsAll d o) (key : String) :
    match d.get? key, o.get? key with
    | some e, some s => Fits e s
    | none, none => True
    | _, _ => False := by
  induction d generalizing o with
  | nil => cases o with
    | nil => trivial
    | cons s o => exact h.elim
  | cons p d ih => cases o with
    | nil => exact h.elim
    | cons s o =>
      obtain ⟨hk, he, hr⟩ := h
      by_cases hkey : s.1 = key
      · simpa [Dictionary.get?, Outline.get?, hk, hkey] using he
      · simpa [Dictionary.get?, Outline.get?, hk, hkey] using ih hr

theorem FitsAll.get?_eq_none {d : Dictionary} {o : Outline} (h : FitsAll d o) {key : String}
    (hkey : key ∉ o.map (·.1)) : d.get? key = none := by
  have hfit := h.get? key
  rw [Outline.get?_eq_none hkey] at hfit
  cases hd : d.get? key with
  | none => rfl
  | some e => simp [hd] at hfit

theorem FitsAll.exists_code {d : Dictionary} {o : Outline} (h : FitsAll d o) {key : String}
    (hkey : o.get? key = some .code) : ∃ text, d.get? key = some (.code text) := by
  have hfit := h.get? key
  rw [hkey] at hfit
  cases hd : d.get? key with
  | none => simp [hd] at hfit
  | some e =>
    rw [hd] at hfit
    cases e with
    | code text => exact ⟨text, rfl⟩
    | _ => exact hfit.elim

theorem FitsAll.exists_list {d : Dictionary} {o : Outline} (h : FitsAll d o) {key : String}
    {alternatives : List Outline} (hkey : o.get? key = some (.list alternatives)) :
    ∃ items, d.get? key = some (.list items) ∧ FitsEach items alternatives := by
  have hfit := h.get? key
  rw [hkey] at hfit
  cases hd : d.get? key with
  | none => simp [hd] at hfit
  | some e =>
    rw [hd] at hfit
    cases e with
    | list items => exact ⟨items, rfl, hfit⟩
    | _ => exact hfit.elim

/-- The shape of what a key leads to; the innermost outline that has the key decides. -/
def shapeOf (scopes : List Outline) (key : String) : Option Shape :=
  scopes.findSome? (·.get? key)

/-- Dictionaries in scope, each of the outline at its place. -/
def FitScopes : List Dictionary → List Outline → Prop := List.Forall₂ FitsAll

theorem FitScopes.resolve {scopes : List Dictionary} {outlines : List Outline}
    (h : FitScopes scopes outlines) (key : String) :
    match resolve scopes key, shapeOf outlines key with
    | some e, some s => Fits e s
    | none, none => True
    | _, _ => False := by
  induction h with
  | nil => trivial
  | @cons d o ds os hd _ ih =>
    have hkey := hd.get? key
    simp only [Template.resolve, shapeOf, List.findSome?_cons]
    cases he : d.get? key <;> cases hs : o.get? key <;> simp only [he, hs] at hkey ⊢
    · exact ih
    · exact hkey

/-! ## The check -/

/-- The scopes of the body of a section, for each way in which it may be rendered. -/
def bodies (scopes : List Outline) : Option Shape → List (List Outline)
  | none => []
  | some .code => [scopes]
  | some (.flag known) => if known = some false then [] else [scopes]
  | some (.dict o) => [o :: scopes]
  | some (.list alternatives) => alternatives.map (· :: scopes)

/-- A section with such an entry always counts as set, so its inverse is never rendered. -/
def alwaysHolds : Option Shape → Bool
  | some (.flag known) => known == some true
  | some (.dict _) => true
  | _ => false

def isScalar : Option Shape → Bool
  | some .code | some (.flag _) => true
  | _ => false

mutual

/-- Whether a node renders in all scopes of the outlines; insertions are left to `insert`. -/
def acceptsNode (insert : String → List Outline → Bool) (scopes : List Outline) : Node → Bool
  | .text _ => true
  | .value key => isScalar (shapeOf scopes key)
  | .block key true children =>
    alwaysHolds (shapeOf scopes key) || acceptsNodes insert scopes children
  | .block key false children =>
    (bodies scopes (shapeOf scopes key)).all fun scopes => acceptsNodes insert scopes children
  | .insertion name _ => insert name scopes

def acceptsNodes (insert : String → List Outline → Bool) (scopes : List Outline) :
    List Node → Bool
  | [] => true
  | n :: r => acceptsNode insert scopes n && acceptsNodes insert scopes r

end

/-- The check of the template `name`, with insertions at most `depth` deep. -/
def TemplateSet.accepts (set : TemplateSet) : Nat → String → List Outline → Bool
  | 0, _, _ => false
  | depth + 1, name, scopes =>
    match set.find? name with
    | none => false
    | some nodes => acceptsNodes (set.accepts depth) scopes nodes

/-! ## Soundness -/

theorem concat_map_ok {α : Type} {f : α → Except RenderFault String} {xs : List α}
    (h : ∀ x ∈ xs, ∃ text, f x = .ok text) : ∃ text, concat (xs.map f) = .ok text := by
  induction xs with
  | nil => exact ⟨"", rfl⟩
  | cons x xs ih =>
    obtain ⟨head, hhead⟩ := h x (by simp)
    obtain ⟨tail, htail⟩ := ih fun y hy => h y (by simp [hy])
    exact ⟨head ++ tail, by simp [concat, hhead, htail, bind, Except.bind]⟩

/-- Each way in which a section is rendered is among those of the outline. -/
theorem exists_body {scopes : List Dictionary} {outlines : List Outline}
    (h : FitScopes scopes outlines) (key : String) {inner : List Dictionary}
    (hi : inner ∈ repetitions scopes (resolve scopes key)) :
    ∃ o ∈ bodies outlines (shapeOf outlines key), FitScopes inner o := by
  have hfit := h.resolve key
  cases he : resolve scopes key with
  | none => simp [he, repetitions, holds] at hi
  | some e =>
    cases hs : shapeOf outlines key with
    | none => simp [he, hs] at hfit
    | some s =>
      rw [he] at hi
      rw [he, hs] at hfit
      cases e with
      | code text =>
        cases s with
        | code =>
          simp only [repetitions] at hi
          split at hi
          · exact ⟨outlines, by simp [bodies], by simp_all⟩
          · simp at hi
        | _ => exact hfit.elim
      | flag value =>
        cases s with
        | flag known =>
          cases value
          · simp [repetitions, holds] at hi
          · simp only [repetitions, holds, if_true, List.mem_singleton] at hi
            refine ⟨outlines, ?_, hi ▸ h⟩
            rcases hfit with rfl | rfl <;> simp [bodies]
        | _ => exact hfit.elim
      | dict d =>
        cases s with
        | dict o =>
          simp only [repetitions, List.mem_singleton] at hi
          subst hi
          exact ⟨o :: outlines, by simp [bodies], .cons hfit h⟩
        | _ => exact hfit.elim
      | list items =>
        cases s with
        | list alternatives =>
          simp only [repetitions, List.mem_map] at hi
          obtain ⟨d, hd, rfl⟩ := hi
          obtain ⟨o, ho, hdo⟩ := fitsEach_iff.1 hfit d hd
          exact ⟨o :: outlines, by simp [bodies, ho], .cons hdo h⟩
        | _ => exact hfit.elim

theorem holds_of_alwaysHolds {scopes : List Dictionary} {outlines : List Outline}
    (h : FitScopes scopes outlines) {key : String}
    (ha : alwaysHolds (shapeOf outlines key) = true) : holds (resolve scopes key) = true := by
  have hfit := h.resolve key
  cases hs : shapeOf outlines key with
  | none => simp [hs, alwaysHolds] at ha
  | some s =>
    cases he : resolve scopes key with
    | none => simp [he, hs] at hfit
    | some e =>
      rw [he, hs] at hfit
      cases s <;> cases e <;> simp_all [alwaysHolds, Fits, holds]

theorem renderValue_ok {scopes : List Dictionary} {outlines : List Outline}
    (h : FitScopes scopes outlines) {key : String} (hs : isScalar (shapeOf outlines key) = true)
    (insert : String → Renderer) (template : String) :
    ∃ text, renderNode insert template scopes (.value key) = .ok text := by
  have hfit := h.resolve key
  cases ho : shapeOf outlines key with
  | none => simp [ho, isScalar] at hs
  | some s =>
    cases he : resolve scopes key with
    | none => simp [he, ho] at hfit
    | some e =>
      rw [he, ho] at hfit
      cases s <;> cases e <;> simp_all [isScalar, Fits, renderNode]

section
variable {insert : String → Renderer} {check : String → List Outline → Bool}

mutual

/-- A node that is accepted renders, if the templates that `check` accepts do. -/
theorem renderNode_ok
    (hinsert : ∀ name scopes outlines, FitScopes scopes outlines → check name outlines = true →
      ∀ source, ∃ text, insert source name scopes = .ok text) (template : String) :
    ∀ (n : Node) {scopes : List Dictionary} {outlines : List Outline},
      FitScopes scopes outlines → acceptsNode check outlines n = true →
      ∃ text, renderNode insert template scopes n = .ok text
  | .text text, _, _, _, _ => ⟨text, rfl⟩
  | .value _, _, _, h, ha => renderValue_ok h ha insert template
  | .block key true children, scopes, outlines, h, ha => by
    simp only [acceptsNode, Bool.or_eq_true] at ha
    simp only [renderNode]
    rcases ha with hset | hchildren
    · exact ⟨"", by rw [if_pos (holds_of_alwaysHolds h hset)]⟩
    · split
      · exact ⟨"", rfl⟩
      · exact renderNodes_ok hinsert template children h hchildren
  | .block key false children, scopes, outlines, h, ha => by
    simp only [acceptsNode, List.all_eq_true] at ha
    simp only [renderNode]
    apply concat_map_ok
    intro inner hi
    obtain ⟨o, ho, hfit⟩ := exists_body h key hi
    exact renderNodes_ok hinsert template children hfit (ha o ho)
  | .insertion name margin, _, _, h, ha => by
    obtain ⟨text, htext⟩ := hinsert name _ _ h ha template
    exact ⟨Text.indent margin text, by simp [renderNode, htext, Except.map]⟩

theorem renderNodes_ok
    (hinsert : ∀ name scopes outlines, FitScopes scopes outlines → check name outlines = true →
      ∀ source, ∃ text, insert source name scopes = .ok text) (template : String) :
    ∀ (nodes : List Node) {scopes : List Dictionary} {outlines : List Outline},
      FitScopes scopes outlines → acceptsNodes check outlines nodes = true →
      ∃ text, renderNodes insert template scopes nodes = .ok text
  | [], _, _, _, _ => ⟨"", rfl⟩
  | n :: r, scopes, outlines, h, ha => by
    simp only [acceptsNodes, Bool.and_eq_true] at ha
    obtain ⟨head, hhead⟩ := renderNode_ok hinsert template n h ha.1
    obtain ⟨tail, htail⟩ := renderNodes_ok hinsert template r h ha.2
    exact ⟨head ++ tail, by simp [renderNodes, hhead, htail, bind, Except.bind]⟩

end

end

namespace TemplateSet

/-- A template that is accepted renders at any depth that allows its insertions. -/
theorem renderWithin_ok (set : TemplateSet) {depth limit : Nat} (hl : depth ≤ limit)
    {name : String} {scopes : List Dictionary} {outlines : List Outline}
    (h : FitScopes scopes outlines) (ha : set.accepts depth name outlines = true)
    (source : String) : ∃ text, set.renderWithin limit source name scopes = .ok text := by
  induction depth generalizing limit name scopes outlines source with
  | zero => simp [accepts] at ha
  | succ depth ih =>
    obtain ⟨limit, rfl⟩ : ∃ k, limit = k + 1 := ⟨limit - 1, by omega⟩
    simp only [accepts] at ha
    simp only [renderWithin]
    cases hf : set.find? name with
    | none => simp [hf] at ha
    | some nodes =>
      rw [hf] at ha
      have hinsert : ∀ name scopes outlines, FitScopes scopes outlines →
          set.accepts depth name outlines = true →
          ∀ source, ∃ text, set.renderWithin limit source name scopes = .ok text :=
        fun _ _ _ hfit hc source => ih (by omega) hfit hc source
      exact renderNodes_ok hinsert name nodes h ha

theorem render_ok (set : TemplateSet) {depth : Nat} (hd : depth ≤ set.maxDepth) {name : String}
    {d : Dictionary} {o : Outline} (h : FitsAll d o) (ha : set.accepts depth name [o] = true) :
    ∃ text, set.render name d = .ok text :=
  set.renderWithin_ok hd (.cons h .nil) ha name

end TemplateSet

end StubForge.Template
