import StubForge.Text.Split

/-! Paths: a text, its components, and the operations that keep the text as it was written. -/
namespace StubForge

structure Path where
  text : String
  deriving DecidableEq, Repr

namespace Path

/-- One step of a path. A `.` is a step only at the very start. -/
inductive Component
  | root
  | current
  | up
  | name (name : String)
  deriving DecidableEq, Repr

def isAbsolute (p : Path) : Bool := p.text.toList.head? == some '/'

/-- The texts between slashes. -/
def pieces (p : Path) : List (List Char) := Text.split (· == '/') p.text.toList

/-- A piece that leads nowhere. -/
def isFiller (piece : List Char) : Bool := piece == [] || piece == ['.']

def component? (piece : List Char) : Option Component :=
  if isFiller piece then none
  else if piece = ['.', '.'] then some .up
  else some (.name (String.ofList piece))

def firstComponent? (absolute : Bool) (piece : List Char) : Option Component :=
  if absolute then some .root
  else if piece = ['.'] then some .current
  else component? piece

def components (p : Path) : List Component :=
  match p.pieces with
  | [] => []
  | first :: rest => (firstComponent? p.isAbsolute first).toList ++ rest.filterMap component?

def ofPieces (pieces : List (List Char)) : Path := ⟨String.ofList (['/'].intercalate pieces)⟩

/-- The path of names from the root down. -/
def ofNames (names : List String) : Path := ⟨"/" ++ "/".intercalate names⟩

/-- `segment` below `p`. An absolute segment takes the place of `p`, and an empty one leaves a
slash at the end. -/
def join (p : Path) (segment : String) : Path :=
  if segment.toList.head? = some '/' then ⟨segment⟩
  else if p.text = "" ∨ p.text.toList.getLast? = some '/' then ⟨p.text ++ segment⟩
  else ⟨p.text ++ "/" ++ segment⟩

def withoutFillersAtEnd (pieces : List (List Char)) : List (List Char) :=
  (pieces.reverse.dropWhile isFiller).reverse

/-- The path without its last component; a root has no parent, and neither has the empty path. -/
def parent? (p : Path) : Option Path :=
  match p.pieces with
  | [] => none
  | first :: rest =>
    match withoutFillersAtEnd rest with
    | [] => if p.isAbsolute ∨ p.text = "" then none else some ⟨""⟩
    | steps =>
      match withoutFillersAtEnd steps.dropLast with
      | [] => some (if p.isAbsolute then ⟨"/"⟩ else ofPieces [first])
      | above => some (ofPieces (first :: above))

/-- The last component, if it is a name. -/
def fileName? (p : Path) : Option String :=
  match p.components.getLast? with
  | some (.name name) => some name
  | _ => none

/-- The pieces after the first `n` components. -/
def dropComponents : Nat → List (List Char) → List (List Char)
  | 0, pieces => pieces
  | _ + 1, [] => []
  | n + 1, piece :: r => if isFiller piece then dropComponents (n + 1) r else dropComponents n r

/-- The part of `p` below `base`, if its components start with those of `base`. -/
def relativeTo? (base p : Path) : Option Path :=
  if base.components.isPrefixOf p.components then
    let n := base.components.length
    let rest := match p.pieces with
      | [] => []
      | first :: rest =>
        if n = 0 then first :: rest
        else (dropComponents
          (n - (firstComponent? p.isAbsolute first).toList.length) rest).dropWhile isFiller
    some (ofPieces (withoutFillersAtEnd rest))
  else none

/-- The text ends in a `.` of its own, with or without slashes after it. -/
def endsInDot (p : Path) : Bool := (p.pieces.filter (· ≠ [])).getLast? == some ['.']

/-- The text does not end in the name of its last component. -/
def endsInFiller (p : Path) : Bool := p.pieces.getLast?.any isFiller

example : ((⟨"out"⟩ : Path).join "").join "b" = ⟨"out/b"⟩ := by decide
example : (⟨"a//b/./"⟩ : Path).parent? = some ⟨"a"⟩ := by decide
example : (⟨"/a"⟩ : Path).parent? = some ⟨"/"⟩ ∧ (⟨"/"⟩ : Path).parent? = none := by decide
example : (⟨"/w/o"⟩ : Path).relativeTo? ⟨"/w/o/a/b"⟩ = some ⟨"a/b"⟩ := by decide
example : (⟨"/w"⟩ : Path).relativeTo? ⟨"/v/a"⟩ = none := by decide
example : (⟨"a/.//"⟩ : Path).endsInDot ∧ ¬ (⟨"a/./b"⟩ : Path).endsInDot := by decide

end Path
end StubForge
