import StubForge.Decimal.Numeral
import StubForge.Decimal.Shortest

/-! How a double is written: positional in the middle range, with an exponent outside it. -/
namespace StubForge.Decimal

/-- Decimal exponents of the leading digit that are written positionally. -/
structure Layout where
  least : Int
  greatest : Int

/-- Literals are positional from `1e-4` up to, but without, `1e16`. -/
def literalLayout : Layout := ⟨-4, 15⟩

/-- Numbers in a document are positional from `1e-5` on. -/
def documentLayout : Layout := ⟨-5, 15⟩

def zeros (n : Nat) : List Char := List.replicate n '0'

/-- The first `place` digits before the point, the others after it; at least one digit stands on
each side. -/
def positional (digits : List Char) (place : Int) : List Char × List Char :=
  if place ≤ 0 then (['0'], zeros (-place).toNat ++ digits)
  else if (digits.length : Int) ≤ place then
    (digits ++ zeros (place.toNat - digits.length), ['0'])
  else (digits.take place.toNat, digits.drop place.toNat)

/-- The shortest digits of a finite number. An exponent follows one digit before the point. -/
def Layout.numeral (layout : Layout) (d : Binary64) : Numeral :=
  let (c, p) := shortest d
  let digits := Nat.toDigits 10 c
  let exponent := p + digits.length - 1
  if d.isZero then ⟨d.isNegative, ['0'], ['0'], none⟩
  else if layout.least ≤ exponent ∧ exponent ≤ layout.greatest then
    let (whole, places) := positional digits (exponent + 1)
    ⟨d.isNegative, whole, places, none⟩
  else ⟨d.isNegative, digits.take 1, digits.drop 1, some exponent⟩

/-- The text of a number in a literal. Those that are not finite have a name. -/
def text (d : Binary64) : String :=
  if d.isFinite then String.ofList (literalLayout.numeral d).toList
  else if d.fractionBits ≠ 0 then "NaN"
  else if d.isNegative then "-inf" else "inf"

example : text ⟨0x4341c37937e08000⟩ = "1e16" ∧ text ⟨0x40c3878000000000⟩ = "9999.0" ∧
    text ⟨0x8000000000000000⟩ = "-0.0" ∧ text ⟨0xbeb0c6f7a0b5ed8d⟩ = "-1e-6" := by
  decide +kernel

end StubForge.Decimal
