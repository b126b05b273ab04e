/-! Tables of code points, written as arithmetic progressions. -/
namespace StubForge.Text

/-- The code points `first`, `first + step`, and so on up to `last`. -/
structure CodeRange where
  first : Nat
  last : Nat
  step : Nat
  deriving Repr, DecidableEq

def CodeRange.holds (r : CodeRange) (n : Nat) : Bool :=
  decide (r.first ≤ n) && decide (n ≤ r.last) && (n - r.first) % r.step == 0

def inRanges (rs : List CodeRange) (n : Nat) : Bool := rs.any (·.holds n)

/-- Letters together with the distance from each of them to its other form. -/
structure CaseShift where
  letters : CodeRange
  offset : Int
  deriving Repr, DecidableEq

/-- The code point at the distance that the first matching row gives. -/
def shifted? (rows : List CaseShift) (n : Nat) : Option Nat :=
  (rows.find? (·.letters.holds n)).map fun row => ((n : Int) + row.offset).toNat

example : (⟨10, 14, 2⟩ : CodeRange).holds 12 ∧ ¬ (⟨10, 14, 2⟩ : CodeRange).holds 13 := by decide
example : shifted? [⟨⟨10, 14, 2⟩, -9⟩] 12 = some 3 := by decide

end StubForge.Text
