import StubForge.Decimal.Binary64
import StubForge.Decimal.Numeral

/-! Numerals as doubles. Digits are taken in as long as they fit 64 bits, and what they amount to is
rounded before it is scaled by a rounded power of ten. So the result is not always the number
nearest to the numeral, but one very close to it. -/
namespace StubForge.Decimal

/-- The digits read on from `n`, up to the first that does not fit, and how many are left out. -/
def takeDigits : Nat → List Char → Nat × Nat
  | n, [] => (n, 0)
  | n, c :: r =>
    let next := Nat.ofDigitChars 10 [c] n
    if next < UInt64.size then takeDigits next r else (n, r.length + 1)

/-- The greatest exponent of ten in the range of doubles. -/
def greatestPower : Nat := 308

/-- A power of ten in that range. -/
def tenTo (k : Nat) : Binary64 := (Binary64.ofQuotient? (Nat.pow 10 k) 1).getD ⟨0⟩

/-- `d * 10 ^ k`, where the power is rounded first and the product or quotient after it. A divisor
beyond the greatest power is taken in two steps; of what is smaller still nothing is left. -/
def scale? (d : Binary64) (k : Int) : Option Binary64 :=
  if d.isZero then some d
  else if 0 ≤ k then
    if greatestPower < k then none else d.times? (tenTo k.toNat)
  else if -k ≤ greatestPower then d.over? (tenTo (-k).toNat)
  else if -k ≤ 2 * greatestPower then
    (d.over? (tenTo greatestPower)).bind (·.over? (tenTo (-k - greatestPower).toNat))
  else some ⟨0⟩

end Decimal

open Decimal in
/-- Whole digits that are left out count as powers of ten; places that are left out do not count. A
numeral that is too large has no value. -/
def Numeral.toBinary64? (n : Numeral) : Option Binary64 := do
  let (whole, beyond) := takeDigits 0 n.whole
  let (digits, ignored) := takeDigits whole n.places
  let d ← Binary64.ofQuotient? digits 1
  let d ← scale? d (n.exponent.getD 0 + beyond + ignored - n.places.length)
  some (d.withSign n.negative)

namespace Numeral

example : toBinary64? ⟨true, ['1'], ['5'], none⟩ = some ⟨0xbff8000000000000⟩ ∧
    toBinary64? ⟨false, ['1'], [], some 309⟩ = none ∧
    toBinary64? ⟨false, ['1'], [], some (-700)⟩ = some ⟨0⟩ := by decide +kernel

-- One unit in the last place above the nearest number.
example : toBinary64? ⟨false, ['6'], [], some (-81)⟩ = some ⟨0x2f46c401b5900e2b⟩ ∧
    Binary64.ofQuotient? 6 (Nat.pow 10 81) = some ⟨0x2f46c401b5900e2a⟩ := by decide +kernel

end Numeral
end StubForge
