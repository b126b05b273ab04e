/-! Numbers as they are written. -/
namespace StubForge

/-- The digits before and after a point, and a power of ten. An integral one has neither places nor
an exponent. -/
structure Numeral where
  negative : Bool
  whole : List Char
  places : List Char
  exponent : Option Int
  deriving DecidableEq, Repr

namespace Numeral

def toList (n : Numeral) : List Char :=
  (if n.negative then ['-'] else []) ++ n.whole ++
    (if n.places = [] then [] else '.' :: n.places) ++
    (n.exponent.elim [] fun e => 'e' :: e.repr.toList)

/-- An integer. A negative zero is none. -/
def toInt? (n : Numeral) : Option Int :=
  let value := Nat.ofDigitChars 10 n.whole 0
  if n.places = [] ∧ n.exponent = none ∧ ¬ (n.negative ∧ value = 0) then
    some (if n.negative then -value else value)
  else none

def ofInt (i : Int) : Numeral := ⟨i < 0, Nat.toDigits 10 i.natAbs, [], none⟩

@[simp] theorem toInt?_ofInt (i : Int) : (ofInt i).toInt? = some i := by
  simp only [toInt?, ofInt, true_and, decide_eq_true_eq, Nat.ofDigitChars_ten_toDigits,
    Int.natAbs_eq_zero]
  rw [if_pos (by omega)]
  split <;> congr 1 <;> omega

example : (⟨true, ['1'], ['5'], some (-9)⟩ : Numeral).toList = "-1.5e-9".toList := by
  decide +kernel

end Numeral
end StubForge
