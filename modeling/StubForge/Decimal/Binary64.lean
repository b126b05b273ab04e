/-! Double-precision numbers as exact dyadic values, and the nearest one to a quotient. -/
namespace StubForge

namespace Decimal

/-- A quotient rounded to the nearest integer, a half to the even neighbour. -/
def roundEven (num den : Nat) : Nat :=
  let q := num / den
  let r := num % den
  if 2 * r < den then q else if den < 2 * r then q + 1 else q + q % 2

/-- `base ^ k` as a quotient of two natural numbers, `k` of either sign. -/
def powerUp (base : Nat) (k : Int) : Nat := Nat.pow base k.toNat

def powerDown (base : Nat) (k : Int) : Nat := Nat.pow base (-k).toNat

end Decimal

open Decimal

/-- A number of 64 bits: sign, eleven bits of exponent and fifty-two of fraction. -/
structure Binary64 where
  bits : UInt64
  deriving DecidableEq, Repr

namespace Binary64

/-- What the sign bit counts for. -/
def signUnit : Nat := 0x8000000000000000

/-- What the last exponent bit counts for: the number of fractions. -/
def exponentUnit : Nat := 0x10000000000000

def isNegative (d : Binary64) : Bool := signUnit ≤ d.bits.toNat

/-- The bits without the sign. -/
def magnitude (d : Binary64) : Nat := d.bits.toNat % signUnit

def exponentBits (d : Binary64) : Nat := d.magnitude / exponentUnit

def fractionBits (d : Binary64) : Nat := d.magnitude % exponentUnit

def isFinite (d : Binary64) : Bool := d.exponentBits < 2047

def isZero (d : Binary64) : Bool := d.magnitude == 0

/-- The value of a finite number without its sign is `significand * 2 ^ power`. -/
def significand (d : Binary64) : Nat :=
  if d.exponentBits = 0 then d.fractionBits else exponentUnit + d.fractionBits

def power (d : Binary64) : Int := (max d.exponentBits 1 : Nat) - 1075

/-- The value without its sign is `num / den`. -/
def num (d : Binary64) : Nat := d.significand * powerUp 2 d.power

def den (d : Binary64) : Nat := powerDown 2 d.power

/-- The number below starts a coarser scale, so the gap to the number before it is half as wide. -/
def closerBelow (d : Binary64) : Bool := d.fractionBits == 0 && 1 < d.exponentBits

def ofMagnitude (negative : Bool) (n : Nat) : Binary64 :=
  ⟨UInt64.ofNat (if negative then signUnit + n else n)⟩

def withSign (d : Binary64) (negative : Bool) : Binary64 := .ofMagnitude negative d.magnitude

/-- The magnitude bits nearest to `num / den`, which is positive; `none` past the largest. -/
def nearestMagnitude? (num den : Nat) : Option Nat :=
  let guess : Int := (num.log2 : Int) - den.log2 - 53
  let scaled (e : Int) : Nat × Nat := (num * powerDown 2 e, den * powerUp 2 e)
  let exponent := [guess, guess + 1].find? fun e => (scaled e).1 / (scaled e).2 < 2 * exponentUnit
  let e := max (exponent.getD (guess + 2)) (-1074)
  let q := roundEven (scaled e).1 (scaled e).2
  let magnitude := (e + 1074).toNat * exponentUnit + q
  if magnitude < 2047 * exponentUnit then some magnitude else none

/-- The number nearest to `num / den`, half way the one with an even fraction; `none` past the
largest. -/
def ofQuotient? (num den : Nat) : Option Binary64 :=
  if num = 0 then some (.ofMagnitude false 0)
  else (nearestMagnitude? num den).map (.ofMagnitude false)

/-- The rounded product of two magnitudes. -/
def times? (a b : Binary64) : Option Binary64 := ofQuotient? (a.num * b.num) (a.den * b.den)

/-- The rounded quotient of two magnitudes, the second of which is not zero. -/
def over? (a b : Binary64) : Option Binary64 := ofQuotient? (a.num * b.den) (a.den * b.num)

example : ofQuotient? 1 10 = some ⟨0x3fb999999999999a⟩ ∧
    ofQuotient? 22250738585072011 (Nat.pow 10 324) = some ⟨0x000fffffffffffff⟩ ∧
    ofQuotient? (Nat.pow 10 309) 1 = none ∧ ofQuotient? 1 (Nat.pow 10 324) = some ⟨0⟩ := by
  decide +kernel

end Binary64
end StubForge
