import Mathlib.Data.List.Forall2
import StubForge.Template.Render

/-! The reach of a template: what it looks up, itself and through the templates that it inserts.
Nothing else in the scopes changes its text. -/
namespace StubForge.Template

mutual

/-- Whether a node looks up none of the keys; insertions are left to `insert`. -/
def avoidsNode (keys : List String) (insert : String → Bool) : Node → Bool
  | .text _ => true
  | .value key => !keys.contains key
  | .block key _ children => !keys.contains key && avoidsNodes keys insert children
  | .insertion name _ => insert name

def avoidsNodes (keys : List String) (insert : String → Bool) : List Node → Bool
  | [] => true
  | n :: r => avoidsNode keys insert n && avoidsNodes keys insert r

end

/-- Whether the template `name`, with insertions at most `depth` deep, looks up none of the
keys. -/
def TemplateSet.avoids (set : TemplateSet) (keys : List String) : Nat → String → Bool
  | 0, _ => false
  | depth + 1, name =>
    match set.find? name with
    | none => false
    | some nodes => avoidsNodes keys (set.avoids keys depth) nodes

/-- Scopes in which all keys but some stand for the same. -/
def Agree (keys : List String) (s t : List Dictionary) : Prop :=
  ∀ key, keys.contains key = false → resolve s key = resolve t key

theorem Agree.cons {keys : List String} {s t : List Dictionary} (h : Agree keys s t)
    (d : Dictionary) : Agree keys (d :: s) (d :: t) := by
  intro key hkey
  have hkey := h key hkey
  rw [resolve, resolve] at hkey
  rw [resolve, resolve, List.findSome?_cons, List.findSome?_cons, hkey]

theorem agree_outer {keys : List String} {outer : List Dictionary}
    (houter : ∀ key, keys.contains key = false → resolve outer key = none)
    (scopes : List Dictionary) : Agree keys (scopes ++ outer) scopes := by
  intro key hkey
  have hnone := houter key hkey
  rw [resolve] at hnone
  rw [resolve, List.findSome?_append, hnone, Option.or_none, resolve]

theorem Agree.repetitions {keys : List String} {s t : List Dictionary} (h : Agree keys s t)
    (entry : Option Entry) :
    List.Forall₂ (Agree keys) (repetitions s entry) (repetitions t entry) := by
  cases entry with
  | none => exact .nil
  | some e =>
    cases e with
    | dict d => exact .cons (h.cons d) .nil
    | list items =>
      simp only [Template.repetitions, List.forall₂_map_left_iff, List.forall₂_map_right_iff]
      exact List.forall₂_same.2 fun d _ => h.cons d
    | _ =>
      simp only [Template.repetitions]
      split
      · exact .cons h .nil
      · exact .nil

section
variable {keys : List String} {i j : String → Renderer} {check : String → Bool}

mutual

/-- A node renders in the same way in scopes that agree on all that it looks up. -/
theorem renderNode_congr
    (hinsert : ∀ name, check name = true → ∀ source s t, Agree keys s t →
      i source name s = j source name t) (template : String) :
    ∀ (n : Node) (s t : List Dictionary), Agree keys s t → avoidsNode keys check n = true →
      renderNode i template s n = renderNode j template t n
  | .text _, _, _, _, _ => rfl
  | .value key, s, t, hst, h => by
    rw [avoidsNode, Bool.not_eq_true'] at h
    simp only [renderNode, hst key h]
  | .block key true children, s, t, hst, h => by
    rw [avoidsNode, Bool.and_eq_true, Bool.not_eq_true'] at h
    simp only [renderNode, hst key h.1, renderNodes_congr hinsert template children s t hst h.2]
  | .block key false children, s, t, hst, h => by
    rw [avoidsNode, Bool.and_eq_true, Bool.not_eq_true'] at h
    have heach := (hst.repetitions (resolve t key)).imp fun inner inner' hinner =>
      renderNodes_congr hinsert template children inner inner' hinner h.2
    rw [renderNode, renderNode, hst key h.1]
    congr 1
    rwa [← List.forall₂_eq_eq_eq, List.forall₂_map_left_iff, List.forall₂_map_right_iff]
  | .insertion name margin, s, t, hst, h => by
    simp only [renderNode, hinsert name h template s t hst]

theorem renderNodes_congr
    (hinsert : ∀ name, check name = true → ∀ source s t, Agree keys s t →
      i source name s = j source name t) (template : String) :
    ∀ (nodes : List Node) (s t : List Dictionary), Agree keys s t →
      avoidsNodes keys check nodes = true →
      renderNodes i template s nodes = renderNodes j template t nodes
  | [], _, _, _, _ => rfl
  | n :: r, s, t, hst, h => by
    rw [avoidsNodes, Bool.and_eq_true] at h
    simp only [renderNodes, renderNode_congr hinsert template n s t hst h.1,
      renderNodes_congr hinsert template r s t hst h.2]

end

namespace TemplateSet

/-- Neither what a template does not look up nor a greater limit changes its text. -/
theorem renderWithin_congr {set : TemplateSet} {depth : Nat} {name : String}
    (h : set.avoids keys depth name = true) {limit limit' : Nat} (hl : depth ≤ limit)
    (hl' : depth ≤ limit') (source source' : String) {s t : List Dictionary}
    (hst : Agree keys s t) :
    set.renderWithin limit source name s = set.renderWithin limit' source' name t := by
  induction depth generalizing limit limit' name source source' s t with
  | zero => simp [avoids] at h
  | succ depth ih =>
    obtain ⟨m, rfl⟩ : ∃ m, limit = m + 1 := ⟨limit - 1, by omega⟩
    obtain ⟨m', rfl⟩ : ∃ m, limit' = m + 1 := ⟨limit' - 1, by omega⟩
    rw [avoids] at h
    simp only [renderWithin]
    cases hf : set.find? name with
    | none => simp [hf] at h
    | some nodes =>
      rw [hf] at h
      refine renderNodes_congr ?_ name nodes s t hst h
      intro inserted hinserted source s t hst
      exact ih hinserted (by omega) (by omega) source source hst

/-- A dictionary outside the reach of a template changes nothing. -/
theorem renderWithin_outer {set : TemplateSet} {depth : Nat} {name : String}
    {outer : List Dictionary}
    (houter : ∀ key, keys.contains key = false → resolve outer key = none)
    (h : set.avoids keys depth name = true) {limit limit' : Nat} (hl : depth ≤ limit)
    (hl' : depth ≤ limit') (source source' : String) (scopes : List Dictionary) :
    set.renderWithin limit source name (scopes ++ outer) =
      set.renderWithin limit' source' name scopes :=
  renderWithin_congr h hl hl' source source' (agree_outer houter scopes)

end TemplateSet

end

end StubForge.Template
