import Mathlib.Data.List.Forall2
import StubForge.Fault

/-! Outcomes of computations that may fail: what a sequence of steps gives, and which of its steps
is the first to fail. -/
namespace StubForge

theorem bind_eq_ok {ε α β : Type} {x : Except ε α} {f : α → Except ε β} {b : β} :
    (x >>= f) = .ok b ↔ ∃ a, x = .ok a ∧ f a = .ok b := by
  cases x <;> simp [bind, Except.bind]

theorem map_eq_ok {ε α β : Type} {x : Except ε α} {f : α → β} {b : β} :
    x.map f = .ok b ↔ ∃ a, x = .ok a ∧ f a = b := by
  cases x <;> simp [Except.map]

theorem mapError_eq_ok {ε ε' α : Type} {x : Except ε α} {f : ε → ε'} {a : α} :
    x.mapError f = .ok a ↔ x = .ok a := by
  cases x <;> simp [Except.mapError]

theorem mapM_eq_ok {ε α β : Type} {f : α → Except ε β} {xs : List α} {ys : List β} :
    xs.mapM f = .ok ys ↔ List.Forall₂ (fun x y => f x = .ok y) xs ys := by
  induction xs generalizing ys with
  | nil => cases ys <;> simp [pure, Except.pure]
  | cons x xs ih =>
    simp only [List.mapM_cons, bind_eq_ok, ih, pure, Except.pure, List.forall₂_cons_left_iff]
    constructor
    · rintro ⟨y, hy, ys, hys, h⟩
      exact ⟨y, ys, hy, hys, (Except.ok.inj h).symm⟩
    · rintro ⟨y, ys, hy, hys, rfl⟩
      exact ⟨y, hy, ys, hys, rfl⟩

/-- The fault of a computation, if it ends in one. -/
def fault? {α : Type} : Except Fault α → Option Fault
  | .ok _ => none
  | .error fault => some fault

@[simp] theorem fault?_ok {α : Type} (a : α) : fault? (.ok a) = none := rfl

@[simp] theorem fault?_error {α : Type} (f : Fault) : fault? (.error f : Except Fault α) = some f :=
  rfl

theorem fault?_eq_none {α : Type} {x : Except Fault α} : fault? x = none ↔ ∃ a, x = .ok a := by
  cases x <;> simp

/-- Of two steps the first decides, and the second where that has no fault. -/
theorem fault?_bind {α β : Type} {x : Except Fault α} {f : α → Except Fault β} {o : Option Fault}
    (h : ∀ a, x = .ok a → fault? (f a) = o) : fault? (x >>= f) = (fault? x).or o := by
  cases x with
  | ok a => simpa [bind, Except.bind] using h a rfl
  | error e => simp [bind, Except.bind]

@[simp] theorem fault?_map {α β : Type} (x : Except Fault α) (f : α → β) :
    fault? (x.map f) = fault? x := by cases x <;> rfl

theorem fault?_mapM {α β : Type} (f : α → Except Fault β) (xs : List α) :
    fault? (xs.mapM f) = xs.findSome? fun x => fault? (f x) := by
  induction xs with
  | nil => rfl
  | cons x xs ih =>
    have hcons : fault? ((x :: xs).mapM f) = (fault? (f x)).or (fault? (xs.mapM f)) := by
      rw [List.mapM_cons]
      refine fault?_bind fun y _ => ?_
      have h := fault?_bind (x := xs.mapM f) fun ys _ => fault?_ok (y :: ys)
      rwa [Option.or_none] at h
    rw [hcons, ih, List.findSome?_cons]
    cases fault? (f x) <;> rfl

theorem findSome?_flatMap {α β γ : Type} (f : α → List β) (g : β → Option γ) (xs : List α) :
    (xs.flatMap f).findSome? g = xs.findSome? fun x => (f x).findSome? g := by
  induction xs with
  | nil => rfl
  | cons x xs ih =>
    rw [List.flatMap_cons, List.findSome?_append, ih, List.findSome?_cons]
    cases (f x).findSome? g <;> rfl

end StubForge
