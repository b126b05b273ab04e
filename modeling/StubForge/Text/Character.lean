import StubForge.Text.Alphabetic
import StubForge.Text.Capitals
import StubForge.Text.CaseIgnorable
import StubForge.Text.Lowercase
import StubForge.Text.Numeric
import StubForge.Text.Smalls
import StubForge.Text.Uppercase

/-! Classes of characters and their capital and small forms. ASCII is decided directly and all
else by the tables. -/
namespace StubForge.Text

def isAscii (c : Char) : Bool := c.toNat < 128

def isAlphabetic (c : Char) : Bool :=
  if isAscii c then c.isAlpha else inRanges alphabeticRanges c.toNat

def isNumeric (c : Char) : Bool :=
  if isAscii c then c.isDigit else inRanges numericRanges c.toNat

def isAlphanumeric (c : Char) : Bool := isAlphabetic c || isNumeric c

def isUppercase (c : Char) : Bool :=
  if isAscii c then c.isUpper else inRanges uppercaseRanges c.toNat

def isLowercase (c : Char) : Bool :=
  if isAscii c then c.isLower else inRanges lowercaseRanges c.toNat

/-- Digraphs and iota letters whose first half alone is a capital. -/
def titlecaseRanges : List CodeRange := [
  ⟨0x1c5, 0x1c5, 1⟩, ⟨0x1c8, 0x1c8, 1⟩, ⟨0x1cb, 0x1cb, 1⟩, ⟨0x1f2, 0x1f2, 1⟩,
  ⟨0x1f88, 0x1f8f, 1⟩, ⟨0x1f98, 0x1f9f, 1⟩, ⟨0x1fa8, 0x1faf, 1⟩, ⟨0x1fbc, 0x1fbc, 1⟩,
  ⟨0x1fcc, 0x1fcc, 1⟩, ⟨0x1ffc, 0x1ffc, 1⟩]

/-- A letter that takes part in case: small, capital or half capital. -/
def isCased (c : Char) : Bool :=
  isLowercase c || isUppercase c || inRanges titlecaseRanges c.toNat

def isCaseIgnorable (c : Char) : Bool :=
  if isAscii c then ['\'', '.', ':', '^', '`'].contains c
  else inRanges caseIgnorableRanges c.toNat

/-- White space in the wide sense, line and paragraph separators included. -/
def isBlank (c : Char) : Bool :=
  inRanges [⟨9, 13, 1⟩, ⟨32, 32, 1⟩, ⟨0x85, 0x85, 1⟩, ⟨0xa0, 0xa0, 1⟩, ⟨0x1680, 0x1680, 1⟩,
    ⟨0x2000, 0x200a, 1⟩, ⟨0x2028, 0x2029, 1⟩, ⟨0x202f, 0x202f, 1⟩, ⟨0x205f, 0x205f, 1⟩,
    ⟨0x3000, 0x3000, 1⟩] c.toNat

/-- The two blocks of control codes, below the blank and after the rubout. -/
def isControl (c : Char) : Bool := decide (c.toNat < 0x20) || (0x7f ≤ c.toNat && c.toNat < 0xa0)

def mapped (shifts : List CaseShift) (expansions : List (Nat × List Nat)) (c : Char) :
    List Char :=
  match expansions.lookup c.toNat with
  | some codes => codes.map Char.ofNat
  | none => [((shifted? shifts c.toNat).map Char.ofNat).getD c]

/-- The capital form of a character, itself if it has none. -/
def capital (c : Char) : List Char :=
  if isAscii c then [c.toUpper] else mapped capitalShifts capitalExpansions c

/-- The small form of a character, itself if it has none. -/
def small (c : Char) : List Char :=
  if isAscii c then [c.toLower] else mapped smallShifts smallExpansions c

example : capital 'ß' = ['S', 'S'] ∧ small 'İ' = ['i', '\u0307'] ∧ small 'Σ' = ['σ'] ∧
    isUppercase 'Ⅷ' ∧ isNumeric 'Ⅷ' ∧ ¬ isAlphabetic '²' := by decide +kernel

end StubForge.Text
