import StubForge.Decimal.Layout

/-! Which numerals the writer makes: digits on both sides of the point, and no zero in front of
another digit. -/
namespace StubForge

/-- A numeral as a text of data may have it. -/
structure Numeral.WellFormed (n : Numeral) : Prop where
  ne_nil : n.whole ≠ []
  whole : ∀ c ∈ n.whole, c.isDigit = true
  places : ∀ c ∈ n.places, c.isDigit = true
  noZeroFirst : n.whole.head? = some '0' → n.whole = ['0']

namespace Decimal

theorem isDigit_toDigits (n : Nat) : ∀ c ∈ Nat.toDigits 10 n, c.isDigit = true :=
  fun _ hc => Nat.isDigit_of_mem_toDigits (by decide) (by decide) hc

/-- The digits of a number other than zero do not start with a zero. -/
theorem head?_toDigits {n : Nat} (h : n ≠ 0) : (Nat.toDigits 10 n).head? ≠ some '0' := by
  induction n using Nat.strongRecOn with
  | ind n ih =>
    by_cases hn : n < 10
    · rw [Nat.toDigits_of_lt_base hn, List.head?_cons, Ne, Option.some.injEq, Nat.digitChar_eq_zero]
      exact h
    · obtain ⟨c, cs, hcs⟩ :=
        List.exists_cons_of_ne_nil (Nat.toDigits_ne_nil (n := n / 10) (b := 10))
      have hhead := ih (n / 10) (by omega) (by omega)
      rw [hcs] at hhead
      rw [Nat.toDigits_of_base_le (by decide) (by omega), hcs]
      exact hhead

theorem whole_toDigits (n : Nat) :
    (Nat.toDigits 10 n).head? = some '0' → Nat.toDigits 10 n = ['0'] := by
  intro h
  by_cases hn : n = 0
  · rw [hn, Nat.toDigits_zero]
  · exact absurd h (head?_toDigits hn)

theorem wellFormed_ofInt (i : Int) : (Numeral.ofInt i).WellFormed :=
  ⟨Nat.toDigits_ne_nil, isDigit_toDigits _, List.forall_mem_nil _, whole_toDigits _⟩

/-! ## Digits of a double -/

theorem powerUp_pos {base : Nat} (h : 0 < base) (k : Int) : 0 < powerUp base k := Nat.pow_pos h

theorem powerDown_pos {base : Nat} (h : 0 < base) (k : Int) : 0 < powerDown base k := Nat.pow_pos h

theorem significand_pos {d : Binary64} (h : d.isZero = false) : 0 < d.significand := by
  have hmagnitude : d.magnitude ≠ 0 := by simpa [Binary64.isZero] using h
  rw [Binary64.significand]
  split
  · rename_i hexponent
    have hdivide := Nat.div_add_mod d.magnitude Binary64.exponentUnit
    rw [Binary64.exponentBits] at hexponent
    rw [Binary64.fractionBits]
    rw [hexponent] at hdivide
    omega
  · exact Nat.add_pos_left (by decide) _

/-- Zero is not close to any other number. -/
theorem readsBack_zero {d : Binary64} (h : d.isZero = false) {g : Grid} (hg : 0 < g.down) :
    g.readsBack d 0 = false := by
  have hlow : 0 < (4 * d.significand - if d.closerBelow then 1 else 2) * g.down := by
    have hpos := significand_pos h
    refine Nat.mul_pos ?_ hg
    split <;> omega
  rw [Grid.readsBack]
  split
  · simp only [Nat.zero_mul, Nat.not_le.2 hlow, decide_false, Bool.false_and]
  · simp only [Nat.zero_mul, Nat.not_lt_zero, decide_false, Bool.false_and]

theorem best?_ne_zero {d : Binary64} (h : d.isZero = false) {g : Grid} (hg : 0 < g.down) {c : Nat}
    (hc : g.best? d = some c) : c ≠ 0 := by
  rw [Grid.best?] at hc
  generalize 4 * d.significand * g.down / g.up = q at hc
  cases q with
  | zero =>
    rw [readsBack_zero h hg] at hc
    cases hone : g.readsBack d (0 + 1) with
    | true =>
      rw [hone] at hc
      cases hc
      exact Nat.one_ne_zero
    | false =>
      rw [hone] at hc
      cases hc
  | succ q =>
    split at hc
    · split at hc <;> cases hc <;> omega
    · cases hc
      omega
    · cases hc
      omega
    · cases hc

theorem dropZeros_ne_zero (fuel : Nat) {c : Nat} (p : Int) (h : c ≠ 0) :
    (dropZeros fuel c p).1 ≠ 0 := by
  induction fuel generalizing c p with
  | zero => exact h
  | succ fuel ih =>
    rw [dropZeros]
    split
    · exact ih (p + 1) (by omega)
    · exact h

/-- A number other than zero has digits other than zero. -/
theorem shortest_ne_zero {d : Binary64} (h : d.isZero = false) : (shortest d).1 ≠ 0 := by
  rw [shortest, if_neg (by simp [h])]
  refine dropZeros_ne_zero 18 _ ?_
  cases hfound : (List.range 17).findSome? fun (n : Nat) =>
      ((Grid.ofPower d.power (leadingPower d.num d.den - n)).best? d).map
        (·, leadingPower d.num d.den - n) with
  | none =>
    exact Nat.ne_of_gt (significand_pos h)
  | some found =>
    obtain ⟨n, -, hn⟩ := List.exists_of_findSome?_eq_some hfound
    obtain ⟨c, hc, rfl⟩ := Option.map_eq_some_iff.1 hn
    exact best?_ne_zero h (Nat.mul_pos (powerDown_pos (by decide) _) (powerUp_pos (by decide) _)) hc

theorem isDigit_zeros (n : Nat) : ∀ c ∈ zeros n, c.isDigit = true := by
  intro c hc
  rw [List.eq_of_mem_replicate hc]
  rfl

theorem isDigit_positional {digits : List Char} (h : ∀ c ∈ digits, c.isDigit = true) (place : Int) :
    (∀ c ∈ (positional digits place).1, c.isDigit = true) ∧
      ∀ c ∈ (positional digits place).2, c.isDigit = true := by
  have hzero : ∀ c ∈ ['0'], c.isDigit = true := List.forall_mem_singleton.2 rfl
  unfold positional
  split
  · exact ⟨hzero, List.forall_mem_append.2 ⟨isDigit_zeros _, h⟩⟩
  · split
    · exact ⟨List.forall_mem_append.2 ⟨h, isDigit_zeros _⟩, hzero⟩
    · exact ⟨fun c hc => h c (List.mem_of_mem_take hc), fun c hc => h c (List.mem_of_mem_drop hc)⟩

theorem Layout.isDigit_numeral (layout : Layout) (d : Binary64) :
    (∀ c ∈ (layout.numeral d).whole, c.isDigit = true) ∧
      ∀ c ∈ (layout.numeral d).places, c.isDigit = true := by
  have hdigits := isDigit_toDigits (shortest d).1
  have hzero : ∀ c ∈ ['0'], c.isDigit = true := List.forall_mem_singleton.2 rfl
  simp only [numeral]
  split
  · exact ⟨hzero, hzero⟩
  · split
    · exact isDigit_positional hdigits _
    · exact ⟨fun c hc => hdigits c (List.mem_of_mem_take hc),
        fun c hc => hdigits c (List.mem_of_mem_drop hc)⟩

/-- Digits without a zero in front stay so before the point. -/
theorem whole_positional {digits : List Char} (hne : digits ≠ [])
    (hfirst : digits.head? ≠ some '0') (place : Int) :
    (positional digits place).1 ≠ [] ∧
      ((positional digits place).1.head? = some '0' → (positional digits place).1 = ['0']) := by
  obtain ⟨c, cs, rfl⟩ := List.exists_cons_of_ne_nil hne
  unfold positional
  split
  · exact ⟨List.cons_ne_nil _ _, fun _ => rfl⟩
  · split
    · exact ⟨List.cons_ne_nil _ _, fun hzero => absurd hzero hfirst⟩
    · obtain ⟨n, hn⟩ : ∃ n, place.toNat = n + 1 := ⟨place.toNat - 1, by omega⟩
      rw [hn]
      exact ⟨List.cons_ne_nil _ _, fun hzero => absurd hzero hfirst⟩

theorem wellFormed_numeral (layout : Layout) (d : Binary64) : (layout.numeral d).WellFormed := by
  obtain ⟨hwhole, hplaces⟩ := layout.isDigit_numeral d
  suffices h : (layout.numeral d).whole ≠ [] ∧
      ((layout.numeral d).whole.head? = some '0' → (layout.numeral d).whole = ['0']) from
    ⟨h.1, hwhole, hplaces, h.2⟩
  simp only [Layout.numeral]
  split
  · exact ⟨List.cons_ne_nil _ _, fun _ => rfl⟩
  · rename_i hzero
    have hne : Nat.toDigits 10 (shortest d).1 ≠ [] := Nat.toDigits_ne_nil
    have hfirst := head?_toDigits (shortest_ne_zero (Bool.not_eq_true _ ▸ hzero))
    split
    · exact whole_positional hne hfirst _
    · obtain ⟨c, cs, hcs⟩ := List.exists_cons_of_ne_nil hne
      rw [hcs] at hfirst ⊢
      exact ⟨List.cons_ne_nil _ _, fun hzero => absurd hzero hfirst⟩

end Decimal
end StubForge
