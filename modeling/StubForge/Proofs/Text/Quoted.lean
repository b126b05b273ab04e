import Mathlib.Algebra.Group.Nat.Defs
import StubForge.Text.Quoted

/-! The number that hexadecimal digits spell, and the escapes in a string literal, one way or another
for each character. -/
namespace StubForge.Text

theorem hexValue?_hexDigit {n : Nat} (h : n < 16) : hexValue? (hexDigit n) = some n := by
  have hall : ∀ n < 16, hexValue? (hexDigit n) = some n := by decide
  exact hall n h

theorem readHex?_concat (ds : List Char) (c : Char) :
    readHex? (ds ++ [c]) = (readHex? ds).bind fun n => (hexValue? c).map (16 * n + ·) := by
  simp [readHex?, List.foldlM_append]

theorem readHex?_hexDigits (width n : Nat) :
    readHex? (hexDigits width n) = some (n % 16 ^ width) := by
  induction width generalizing n with
  | zero => simp [hexDigits, readHex?, Nat.mod_one]
  | succ width ih =>
    rw [hexDigits, readHex?_concat, ih, hexValue?_hexDigit (Nat.mod_lt _ (by decide)),
      Nat.pow_succ', Nat.mod_mul, Nat.add_comm]
    rfl

/-- A control code is short enough for its escape. -/
theorem readHex?_of_isControl {c : Char} (h : isControl c = true) :
    readHex? (hexDigits 4 c.toNat) = some c.toNat := by
  have hcode : c.toNat < 16 ^ 4 := by
    simp only [isControl, Bool.or_eq_true, Bool.and_eq_true, decide_eq_true_eq] at h
    omega
  rw [readHex?_hexDigits, Nat.mod_eq_of_lt hcode]

/-- Digits need no escape, and none is the sign of a number. -/
theorem hexDigit_plain {width n : Nat} {c : Char} (h : c ∈ hexDigits width n) :
    c ≠ '"' ∧ c ≠ '\\' ∧ c ≠ '+' ∧ isControl c = false := by
  obtain ⟨m, hm, rfl⟩ := exists_of_mem_hexDigits h
  have hall : ∀ m < 16, hexDigit m ≠ '"' ∧ hexDigit m ≠ '\\' ∧ hexDigit m ≠ '+' ∧
      isControl (hexDigit m) = false := by decide
  exact hall m hm

/-! ## Escapes -/

/-- The characters with an escape of two characters, and the second of these. -/
def shortEscapes : List (Char × Char) :=
  [('"', '"'), ('\\', '\\'), ('\n', 'n'), ('\r', 'r'), ('\t', 't')]

/-- The three ways in which a character stands in a literal: behind a backslash as a mark of its
own, as the digits of its code, or as it is. -/
theorem escape_cases (c : Char) :
    (∃ mark, (c, mark) ∈ shortEscapes ∧ escape c = ['\\', mark]) ∨
      (isControl c = true ∧ escape c = '\\' :: 'u' :: hexDigits 4 c.toNat) ∨
      (c ≠ '"' ∧ c ≠ '\\' ∧ isControl c = false ∧ escape c = [c]) := by
  by_cases hshort : ∃ mark, (c, mark) ∈ shortEscapes
  · left
    obtain ⟨mark, hmark⟩ := hshort
    refine ⟨mark, hmark, ?_⟩
    simp only [shortEscapes, List.mem_cons, Prod.mk.injEq, List.not_mem_nil, or_false] at hmark
    rcases hmark with ⟨rfl, rfl⟩ | ⟨rfl, rfl⟩ | ⟨rfl, rfl⟩ | ⟨rfl, rfl⟩ | ⟨rfl, rfl⟩ <;> rfl
  · right
    simp only [shortEscapes, List.mem_cons, Prod.mk.injEq, List.not_mem_nil, or_false, exists_or,
      exists_eq_right, not_or] at hshort
    obtain ⟨hquote, hbackslash, hfeed, hreturn, htab⟩ := hshort
    cases hcontrol : isControl c with
    | true =>
      left
      simp [escape, hquote, hbackslash, hfeed, hreturn, htab, hcontrol]
    | false =>
      right
      simp [escape, hquote, hbackslash, hfeed, hreturn, htab, hcontrol]

end StubForge.Text
