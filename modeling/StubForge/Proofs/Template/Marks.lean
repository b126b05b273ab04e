import Mathlib.Data.List.Forall2
import StubForge.Template.Dictionary

/-! Lists of dictionaries that are built item by item and then marked for a repetition: what an
item of such a list still has in common with that from which it was built. -/
namespace StubForge

/-- Two lists that follow the same list follow each other. -/
theorem forall₂_join {α β γ : Type} {R : α → β → Prop} {S : α → γ → Prop} {T : β → γ → Prop}
    {xs : List α} {ys : List β} {zs : List γ} (hR : List.Forall₂ R xs ys)
    (hS : List.Forall₂ S xs zs) (h : ∀ x y z, R x y → S x z → T y z) : List.Forall₂ T ys zs := by
  induction hR generalizing zs with
  | nil =>
    cases hS
    exact .nil
  | cons hxy _ ih =>
    cases hS with
    | cons hxz hS => exact .cons (h _ _ _ hxy hxz) (ih hS)

theorem forall₂_singleton_left_iff {α β : Type} {R : α → β → Prop} {x : α} {ys : List β} :
    List.Forall₂ R [x] ys ↔ ∃ y, ys = [y] ∧ R x y := by
  constructor
  · intro h
    obtain ⟨y, rest, hy, hrest, rfl⟩ := List.forall₂_cons_left_iff.1 h
    cases hrest
    exact ⟨y, rfl, hy⟩
  · rintro ⟨y, rfl, hy⟩
    exact .cons hy .nil

theorem forall_mem_of_forall₂ {α β : Type} {R : α → β → Prop} {P : β → Prop} {xs : List α}
    {ys : List β} (hR : List.Forall₂ R xs ys) (h : ∀ x ∈ xs, ∀ y, R x y → P y) : ∀ y ∈ ys, P y := by
  induction hR with
  | nil => simp
  | @cons x y xs ys hxy _ ih =>
    have htail := ih fun x hx => h x (List.mem_cons_of_mem _ hx)
    exact List.forall_mem_cons.2 ⟨h x List.mem_cons_self y hxy, htail⟩

theorem exists_getElem?_of_forall₂ {α β : Type} {R : α → β → Prop} {xs : List α} {ys : List β}
    (h : List.Forall₂ R xs ys) {i : Nat} {x : α} (hx : xs[i]? = some x) :
    ∃ y, ys[i]? = some y ∧ R x y := by
  obtain ⟨hlt, rfl⟩ := List.getElem?_eq_some_iff.1 hx
  have hlt' : i < ys.length := h.length_eq ▸ hlt
  exact ⟨ys[i], List.getElem?_eq_getElem hlt', h.get hlt hlt'⟩

namespace Dictionary

theorem code?_eq_some {d : Dictionary} {key text : String} :
    d.code? key = some text ↔ d.get? key = some (.code text) := by
  rw [code?]
  cases d.get? key with
  | none => simp
  | some e => cases e <;> simp

theorem flag?_eq_some {d : Dictionary} {key : String} {value : Bool} :
    d.flag? key = some value ↔ d.get? key = some (.flag value) := by
  rw [flag?]
  cases d.get? key with
  | none => simp
  | some e => cases e <;> simp

theorem list?_eq_some {d : Dictionary} {key : String} {items : List Dictionary} :
    d.list? key = some items ↔ d.get? key = some (.list items) := by
  rw [list?]
  cases d.get? key with
  | none => simp
  | some e => cases e <;> simp

/-- The second dictionary is the first, apart from the marks of a repetition. -/
def Marked (d e : Dictionary) : Prop :=
  ∀ key, key ≠ "first" → key ≠ "last" → e.get? key = d.get? key

/-- Both dictionaries have a text under each of the keys, and it is the same text. -/
def AgreeOn (keys : List String) (d e : Dictionary) : Prop :=
  ∀ key ∈ keys, ∃ text, d.code? key = some text ∧ e.code? key = some text

theorem forall₂_mark {α : Type} {R : α → Dictionary → Prop} {xs : List α} {ds : List Dictionary}
    (first : Bool) (h : List.Forall₂ R xs ds) :
    List.Forall₂ (fun x e => ∃ d, R x d ∧ Marked d e) xs (mark first ds) := by
  induction h generalizing first with
  | nil => exact .nil
  | @cons x d xs ds hd _ ih =>
    refine .cons ⟨d, hd, fun key hfirst hlast => ?_⟩ (ih false)
    rw [get?_insert, if_neg (Ne.symm hlast), get?_insert, if_neg (Ne.symm hfirst)]

/-- Marks change neither the order nor the number of the items. -/
theorem forall₂_markEnds {α : Type} {R : α → Dictionary → Prop} {xs : List α}
    {ds : List Dictionary} (h : List.Forall₂ R xs ds) :
    List.Forall₂ (fun x e => ∃ d, R x d ∧ Marked d e) xs (markEnds ds) := forall₂_mark true h

section Marked

variable {d e : Dictionary} (h : Marked d e) {key : String} (hfirst : key ≠ "first")
  (hlast : key ≠ "last")
include h hfirst hlast

theorem Marked.code? : e.code? key = d.code? key := by
  rw [Dictionary.code?, h key hfirst hlast, Dictionary.code?]

theorem Marked.flag? : e.flag? key = d.flag? key := by
  rw [Dictionary.flag?, h key hfirst hlast, Dictionary.flag?]

theorem Marked.list? : e.list? key = d.list? key := by
  rw [Dictionary.list?, h key hfirst hlast, Dictionary.list?]

end Marked

end Dictionary

end StubForge
