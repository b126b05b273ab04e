import StubForge.Decimal.Binary64

/-! The fewest decimal digits that read back as the same number. -/
namespace StubForge.Decimal

/-- The numbers that round to `4 * significand` quarter steps, on the decimal grid of step
`10 ^ p`. One quarter step is `2 ^ (power - 2)`, so a grid point `c` lies `c * up / down` quarter
steps from zero. -/
structure Grid where
  up : Nat
  down : Nat

def Grid.ofPower (power p : Int) : Grid :=
  ⟨powerUp 10 p * powerDown 2 (power - 2), powerDown 10 p * powerUp 2 (power - 2)⟩

/-- The grid point `c` reads back as `d`: it lies between the halves of the gaps to the
neighbours of `d`, which round to `d` if its significand is even. -/
def Grid.readsBack (g : Grid) (d : Binary64) (c : Nat) : Bool :=
  let low := (4 * d.significand - if d.closerBelow then 1 else 2) * g.down
  let high := (4 * d.significand + 2) * g.down
  if d.significand % 2 = 0 then decide (low ≤ c * g.up) && decide (c * g.up ≤ high)
  else decide (low < c * g.up) && decide (c * g.up < high)

/-- The nearer of the two neighbours of `d` on the grid that read back, the upper on a tie. -/
def Grid.best? (g : Grid) (d : Binary64) : Option Nat :=
  let target := 4 * d.significand * g.down
  let c := target / g.up
  match g.readsBack d c, g.readsBack d (c + 1) with
  | true, true => if target - c * g.up < (c + 1) * g.up - target then some c else some (c + 1)
  | true, false => some c
  | false, true => some (c + 1)
  | false, false => none

def digitCount (n : Nat) : Nat := if n = 0 then 0 else (Nat.toDigits 10 n).length

/-- The largest `k` with `10 ^ k ≤ num / den`. -/
def leadingPower (num den : Nat) : Int :=
  if den ≤ num then (digitCount (num / den) : Int) - 1
  else -(digitCount ((den - 1) / num) : Int)

/-- Trailing zeros moved into the power of ten; `fuel` bounds their number. -/
def dropZeros : Nat → Nat → Int → Nat × Int
  | 0, c, p => (c, p)
  | fuel + 1, c, p => if c % 10 = 0 then dropZeros fuel (c / 10) (p + 1) else (c, p)

/-- Digits `c` and power `p` with `c * 10 ^ p` the shortest decimal that reads back as the
finite number `d`, sign aside. -/
def shortest (d : Binary64) : Nat × Int :=
  if d.isZero then (0, 0)
  else
    let top := leadingPower d.num d.den
    let found := (List.range 17).findSome? fun (n : Nat) =>
      ((Grid.ofPower d.power (top - n)).best? d).map (·, top - n)
    let (c, p) := found.getD (d.significand, d.power)
    dropZeros 18 c p

example : shortest ⟨0x3fb999999999999a⟩ = (1, -1) ∧ shortest ⟨1⟩ = (5, -324) ∧
    shortest ⟨0x3fd3333333333334⟩ = (30000000000000004, -17) := by decide +kernel

end StubForge.Decimal
