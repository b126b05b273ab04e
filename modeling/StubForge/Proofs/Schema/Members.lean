import StubForge.Proofs.Schema.Forms
import StubForge.Schema.Reading

/-! Finding the members of a noun again, also where some are left out. -/
namespace StubForge

/-! ## How deep a tree goes -/

namespace Json

mutual

/-- Levels of arrays and objects inside one another. -/
def nesting : Json → Nat
  | .null | .bool _ | .number _ | .string _ => 0
  | .array items => nestingOfItems items + 1
  | .object members => nestingOfMembers members + 1

def nestingOfItems : List Json → Nat
  | [] => 0
  | item :: r => max (nesting item) (nestingOfItems r)

def nestingOfMembers : List (Option String × Json) → Nat
  | [] => 0
  | (_, value) :: r => max (nesting value) (nestingOfMembers r)

end

theorem nesting_le_of_mem_items {items : List Json} {j : Json} (h : j ∈ items) :
    j.nesting ≤ nestingOfItems items := by
  induction items with
  | nil => cases h
  | cons item r ih =>
    rw [nestingOfItems]
    rcases List.mem_cons.1 h with rfl | h
    · exact Nat.le_max_left _ _
    · exact Nat.le_trans (ih h) (Nat.le_max_right _ _)

theorem nesting_le_of_mem_members {members : List (Option String × Json)}
    {m : Option String × Json} (h : m ∈ members) : m.2.nesting ≤ nestingOfMembers members := by
  induction members with
  | nil => cases h
  | cons member r ih =>
    rw [nestingOfMembers]
    rcases List.mem_cons.1 h with rfl | h
    · exact Nat.le_max_left _ _
    · exact Nat.le_trans (ih h) (Nat.le_max_right _ _)

/-- A level for an array, and the rest for its items. -/
theorem exists_of_nesting_array {items : List Json} {n : Nat} (h : (array items).nesting ≤ n) :
    ∃ m, n = m + 1 ∧ ∀ j ∈ items, j.nesting ≤ m := by
  rw [nesting] at h
  exact ⟨n - 1, by omega, fun j hj => Nat.le_trans (nesting_le_of_mem_items hj) (by omega)⟩

theorem exists_of_nesting_pair {j k : Json} {n : Nat} (h : (array [j, k]).nesting ≤ n) :
    ∃ m, n = m + 1 ∧ j.nesting ≤ m ∧ k.nesting ≤ m := by
  obtain ⟨m, rfl, hm⟩ := exists_of_nesting_array h
  obtain ⟨hj, hk⟩ := List.forall_mem_cons.1 hm
  exact ⟨m, rfl, hj, hk k List.mem_cons_self⟩

/-- The members of an object that has all its keys. -/
def keyed (members : List (String × Json)) : List (Option String × Json) :=
  members.map fun (key, value) => (some key, value)

theorem record_eq_object (members : List (String × Json)) :
    record members = object (keyed members) := rfl

theorem exists_of_nesting_record {members : List (String × Json)} {n : Nat}
    (h : (record members).nesting ≤ n) : ∃ m, n = m + 1 ∧ ∀ p ∈ members, p.2.nesting ≤ m := by
  rw [record_eq_object, nesting] at h
  refine ⟨n - 1, by omega, fun p hp => ?_⟩
  have hmem : (some p.1, p.2) ∈ keyed members := List.mem_map.2 ⟨p, hp, rfl⟩
  exact Nat.le_trans (nesting_le_of_mem_members hmem) (by omega)

theorem exists_of_nesting_choice {key : String} {content : Json} {n : Nat}
    (h : (choice key content).nesting ≤ n) : ∃ m, n = m + 1 ∧ content.nesting ≤ m := by
  obtain ⟨m, rfl, hm⟩ := exists_of_nesting_record h
  exact ⟨m, rfl, hm _ List.mem_cons_self⟩

end Json

/-! ## Members -/

namespace Writing

/-- What a member can be found as. -/
def Member.Has (m : Member) : Option Json → Prop
  | none => m.omissible
  | some j => m.form j

theorem Members.key_ne {ms : List Member} {js : List (String × Json)} (h : Members ms js)
    {key : String} (hkey : key ∉ ms.map (·.key)) : ∀ p ∈ js, p.1 ≠ key := by
  induction h with
  | nil => exact List.forall_mem_nil _
  | present _ _ ih =>
    obtain ⟨hfirst, hrest⟩ := not_or.1 (mt List.mem_cons.2 hkey)
    exact List.forall_mem_cons.2 ⟨fun heq => hfirst heq.symm, ih hrest⟩
  | absent _ _ ih => exact ih (mt (List.mem_cons_of_mem _) hkey)

end Writing

open Writing

namespace Reading

theorem member?_cons_of_ne {key other : String} (h : other ≠ key) (j : Json)
    (js : List (String × Json)) :
    member? key (Json.keyed ((other, j) :: js)) = member? key (Json.keyed js) := by
  have hne : (some other == some key) = false := by simp [h]
  simp only [member?, Json.keyed, List.map_cons, List.filter_cons, hne, Bool.false_eq_true,
    if_false]

theorem filter_keyed {key : String} {js : List (String × Json)} (h : ∀ p ∈ js, p.1 ≠ key) :
    (Json.keyed js).filter (·.1 == some key) = [] := by
  rw [List.filter_eq_nil_iff, Json.keyed, List.forall_mem_map]
  intro p hp
  simpa using h p hp

theorem member?_of_ne {key : String} {js : List (String × Json)} (h : ∀ p ∈ js, p.1 ≠ key) :
    member? key (Json.keyed js) = some none := by
  rw [member?, filter_keyed h]

theorem member?_cons_self {key : String} {js : List (String × Json)} (h : ∀ p ∈ js, p.1 ≠ key)
    (j : Json) : member? key (Json.keyed ((key, j) :: js)) = some (some j) := by
  rw [member?, Json.keyed, List.map_cons, List.filter_cons_of_pos (by simp), ← Json.keyed,
    filter_keyed h]

theorem mapM_congr {α β : Type} {f g : α → Option β} {xs : List α} (h : ∀ x ∈ xs, f x = g x) :
    xs.mapM f = xs.mapM g := by
  induction xs with
  | nil => rfl
  | cons x xs ih =>
    obtain ⟨hx, hxs⟩ := List.forall_mem_cons.1 h
    rw [List.mapM_cons, List.mapM_cons, hx, ih hxs]

theorem mapM_of_forall₂ {α β : Type} {f : β → Option α} {xs : List α} {ys : List β}
    (h : List.Forall₂ (fun x y => f y = some x) xs ys) : ys.mapM f = some xs := by
  induction h with
  | nil => rfl
  | cons hx _ ih =>
    rw [List.mapM_cons, hx, ih]
    rfl

/-- Every key finds the member that it names, or nothing where the member is left out. -/
theorem exists_mapM_member? {ms : List Member} {js : List (String × Json)} (h : Members ms js)
    (hkeys : (ms.map (·.key)).Nodup) :
    ∃ vs, (ms.map (·.key)).mapM (member? · (Json.keyed js)) = some vs ∧
      List.Forall₂ Member.Has ms vs := by
  induction h with
  | nil => exact ⟨[], rfl, .nil⟩
  | @present m ms j js hform h ih =>
    obtain ⟨hkey, hkeys⟩ := List.nodup_cons.1 hkeys
    obtain ⟨vs, hvs, hhas⟩ := ih hkeys
    refine ⟨some j :: vs, ?_, .cons hform hhas⟩
    -- The keys are distinct, so the others pass over the member that comes first.
    have hrest : (ms.map (·.key)).mapM (member? · (Json.keyed ((m.key, j) :: js))) = some vs := by
      rw [← hvs]
      refine mapM_congr fun key hmem => member?_cons_of_ne ?_ j js
      rintro rfl
      exact hkey hmem
    rw [List.map_cons, List.mapM_cons, member?_cons_self (h.key_ne hkey), hrest]
    rfl
  | absent homissible h ih =>
    obtain ⟨hkey, hkeys⟩ := List.nodup_cons.1 hkeys
    obtain ⟨vs, hvs, hhas⟩ := ih hkeys
    refine ⟨none :: vs, ?_, .cons homissible hhas⟩
    rw [List.map_cons, List.mapM_cons, member?_of_ne (h.key_ne hkey), hvs]
    rfl

theorem exists_members? {ms : List Member} {j : Json} (h : IsRecord ms j) (keys : List String)
    (hkeys : ms.map (·.key) = keys) (hnodup : keys.Nodup) :
    ∃ vs, members? keys j = some vs ∧ List.Forall₂ Member.Has ms vs := by
  obtain ⟨js, hjs, rfl⟩ := h
  subst hkeys
  obtain ⟨vs, hvs, hhas⟩ := exists_mapM_member? hjs hnodup
  have hall : (Json.keyed js).all (·.1.isSome) = true := by simp [Json.keyed]
  refine ⟨vs, ?_, hhas⟩
  rw [Json.record_eq_object, members?, hall, ← hvs]
  rfl

section Members

variable {α : Type} {m : Member} {v : Option Json} {a : α} {read : Json → Option α}

theorem required_of_has (h : m.Has v) (hpresent : ¬ m.omissible)
    (hread : ∀ j, m.form j → read j = some a) : required read v = some a := by
  cases v with
  | none => exact absurd h hpresent
  | some j => exact hread j h

theorem defaulted_of_has {value : α} (h : m.Has v) (hdefault : m.omissible → a = value)
    (hread : ∀ j, m.form j → read j = some a) : defaulted value read v = some a := by
  cases v with
  | none => exact congrArg some (hdefault h).symm
  | some j => exact hread j h

theorem required_of_value {key : String} {value : Json} (h : (Member.required key value).Has v)
    (hread : read value = some a) : required read v = some a := by
  refine required_of_has h id ?_
  rintro j rfl
  exact hread

theorem defaulted_of_value {key : String} {value : Json} {holdsDefault : Prop} {b : α}
    (h : (Member.defaulted key value holdsDefault).Has v) (hdefault : holdsDefault → a = b)
    (hread : read value = some a) : defaulted b read v = some a := by
  refine defaulted_of_has h hdefault ?_
  rintro j rfl
  exact hread

theorem nullable_of_optional {form : α → Json → Prop} {key : String} {value : Option α}
    (h : (Member.optional key form value).Has v)
    (hread : ∀ a, value = some a → ∀ j, form a j → j ≠ .null ∧ read j = some a) :
    nullable read v = some value := by
  cases value with
  | none =>
    cases v with
    | none => rfl
    | some j =>
      cases (h : j = .null)
      rfl
  | some a =>
    cases v with
    | none => cases (h : some a = none)
    | some j =>
      obtain ⟨hne, hj⟩ := hread a rfl j h
      rw [nullable, hj]
      · rfl
      · exact hne

theorem readList_of_isArray {form : α → Json → Prop} {xs : List α} {j : Json} {depth : Nat}
    {read : Nat → Json → Option α} (h : IsArray form xs j)
    (hread : ∀ x ∈ xs, ∀ j, form x j → read depth j = some x) :
    readList read (depth + 1) j = some xs := by
  obtain ⟨js, hjs, rfl⟩ := h
  refine mapM_of_forall₂ ?_
  induction hjs with
  | nil => exact .nil
  | cons hx _ ih =>
    obtain ⟨hfirst, hrest⟩ := List.forall_mem_cons.1 hread
    exact .cons (hfirst _ hx) (ih hrest)

end Members

end Reading

end StubForge
