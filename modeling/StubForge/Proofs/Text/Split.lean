import StubForge.Text.Split

/-! Pieces of a text that is put together, and the characters of a piece. -/
namespace StubForge.Text

variable {p : Char → Bool}

theorem split_cons_of_neg {c : Char} (h : p c = false) (t : List Char) :
    ∃ w ws, split p t = w :: ws ∧ split p (c :: t) = (c :: w) :: ws := by
  cases hs : split p t with
  | nil => exact absurd hs (split_ne_nil p t)
  | cons w ws => exact ⟨w, ws, rfl, by rw [split, h, if_neg Bool.false_ne_true, hs]⟩

/-- A separator divides the pieces. -/
theorem split_append {c : Char} (hc : p c = true) (a b : List Char) :
    split p (a ++ c :: b) = split p a ++ split p b := by
  induction a with
  | nil => rw [List.nil_append, split_cons_of_pos hc, split_nil, List.singleton_append]
  | cons d a ih =>
    cases hd : p d with
    | true =>
      rw [List.cons_append, split_cons_of_pos hd, ih, split_cons_of_pos hd, List.cons_append]
    | false =>
      obtain ⟨w, ws, hw, hcons⟩ := split_cons_of_neg hd a
      obtain ⟨v, vs, hv, hcons'⟩ := split_cons_of_neg hd (a ++ c :: b)
      rw [ih, hw, List.cons_append] at hv
      obtain ⟨rfl, rfl⟩ := List.cons.inj hv
      rw [List.cons_append, hcons', hcons, List.cons_append]

theorem split_of_forall_not {t : List Char} (h : ∀ c ∈ t, p c = false) : split p t = [t] := by
  induction t with
  | nil => rfl
  | cons c t ih =>
    rw [List.forall_mem_cons] at h
    rw [split, h.1, if_neg Bool.false_ne_true, ih h.2]

theorem split_eq_splitOnP (t : List Char) : split p t = t.splitOnP p := by
  induction t with
  | nil => rw [split_nil, List.splitOnP_nil]
  | cons c t ih =>
    rw [List.splitOnP_cons_eq_if_modifyHead, ← ih]
    cases hc : p c with
    | true => rw [split_cons_of_pos hc, if_pos rfl]
    | false =>
      obtain ⟨w, ws, hw, hcons⟩ := split_cons_of_neg hc t
      rw [hcons, hw, if_neg Bool.false_ne_true, List.modifyHead_cons]

theorem split_beq (c : Char) (t : List Char) : split (· == c) t = t.splitOn c := by
  rw [split_eq_splitOnP, List.splitOn_eq_splitOnP]

/-- What has no separators in it goes to the last piece. -/
theorem split_append_of_forall_not (a : List Char) {b : List Char} (h : ∀ c ∈ b, p c = false) :
    ∃ front last, split p a = front ++ [last] ∧ split p (a ++ b) = front ++ [last ++ b] := by
  induction a with
  | nil => exact ⟨[], [], rfl, split_of_forall_not h⟩
  | cons c a ih =>
    obtain ⟨front, last, ha, hab⟩ := ih
    cases hc : p c with
    | true =>
      refine ⟨[] :: front, last, ?_, ?_⟩
      · rw [split_cons_of_pos hc, ha, List.cons_append]
      · rw [List.cons_append, split_cons_of_pos hc, hab, List.cons_append]
    | false =>
      obtain ⟨w, ws, hw, hcons⟩ := split_cons_of_neg hc a
      obtain ⟨v, vs, hv, hcons'⟩ := split_cons_of_neg hc (a ++ b)
      rw [List.cons_append, hcons, hcons']
      rw [ha] at hw
      rw [hab] at hv
      cases front with
      | nil =>
        obtain ⟨rfl, rfl⟩ := List.cons.inj hw
        obtain ⟨rfl, rfl⟩ := List.cons.inj hv
        exact ⟨[], _, rfl, rfl⟩
      | cons first front =>
        obtain ⟨rfl, rfl⟩ := List.cons.inj hw
        obtain ⟨rfl, rfl⟩ := List.cons.inj hv
        exact ⟨(c :: first) :: front, last, rfl, rfl⟩

/-- A single piece is the whole text. -/
theorem eq_of_split_eq_singleton {t w : List Char} (h : split p t = [w]) : w = t := by
  induction t generalizing w with
  | nil => exact (List.singleton_inj.1 h).symm
  | cons c t ih =>
    cases hc : p c with
    | true =>
      rw [split_cons_of_pos hc] at h
      exact absurd (List.cons.inj h).2 (split_ne_nil p t)
    | false =>
      obtain ⟨v, vs, hv, hcons⟩ := split_cons_of_neg hc t
      rw [hcons] at h
      obtain ⟨rfl, rfl⟩ := List.cons.inj h
      rw [ih hv]

/-- A piece has characters of the text in it, and no separators. -/
theorem mem_of_mem_split {t w : List Char} (hw : w ∈ split p t) {c : Char} (hc : c ∈ w) :
    c ∈ t ∧ p c = false := by
  induction t generalizing w with
  | nil =>
    rw [split_nil, List.mem_singleton] at hw
    simp [hw] at hc
  | cons d t ih =>
    cases hd : p d with
    | true =>
      rw [split_cons_of_pos hd, List.mem_cons] at hw
      rcases hw with rfl | hw
      · simp at hc
      · exact ⟨List.mem_cons_of_mem d (ih hw hc).1, (ih hw hc).2⟩
    | false =>
      obtain ⟨v, vs, hv, hcons⟩ := split_cons_of_neg hd t
      rw [hcons, List.mem_cons] at hw
      rcases hw with rfl | hw
      · rcases List.mem_cons.1 hc with rfl | hc
        · exact ⟨List.mem_cons_self, hd⟩
        · have hvc := ih (hv ▸ List.mem_cons_self) hc
          exact ⟨List.mem_cons_of_mem d hvc.1, hvc.2⟩
      · have hwc := ih (hv ▸ List.mem_cons_of_mem v hw) hc
        exact ⟨List.mem_cons_of_mem d hwc.1, hwc.2⟩

/-- Pieces that are put together start as the first of them does. -/
theorem head?_intercalate (sep : String) {first : String} {c : Char}
    (h : first.toList.head? = some c) (rest : List String) :
    (sep.intercalate (first :: rest)).toList.head? = some c := by
  rw [← String.append_empty (s := first), String.intercalate_cons_append, String.toList_append,
    List.head?_append, h, Option.some_or]

end StubForge.Text
