/-! Lines of a text and their margin. -/
namespace StubForge.Text

/-- The lines of a text, each with its line feed; the last may lack one. -/
def lines : List Char → List (List Char)
  | [] => []
  | c :: r =>
    if c = '\n' then [c] :: lines r
    else match lines r with
      | [] => [[c]]
      | l :: ls => (c :: l) :: ls

@[simp] theorem flatten_lines (t : List Char) : (lines t).flatten = t := by
  induction t with
  | nil => rfl
  | cons c r ih =>
    rw [lines]
    split
    · simp [ih]
    · cases h : lines r with
      | nil => rw [h] at ih; simpa using ih
      | cons l ls => rw [h] at ih; simpa using ih

def isBlankLine (l : List Char) : Bool := l == ['\n'] || l == ['\r', '\n']

/-- Blank lines stay blank; every other line starts with the margin. -/
def indentLine (margin l : List Char) : List Char := if isBlankLine l then l else margin ++ l

def indentLines (margin t : List Char) : List Char := (lines t).flatMap (indentLine margin)

def indent (margin t : String) : String :=
  String.ofList (indentLines margin.toList t.toList)

@[simp] theorem toList_indent (margin t : String) :
    (indent margin t).toList = indentLines margin.toList t.toList := by simp [indent]

@[simp] theorem indentLines_nil (t : List Char) : indentLines [] t = t := by
  have h : indentLine [] = id := by funext l; simp [indentLine]
  simp [indentLines, h, List.flatMap_id]

example : indentLines "  ".toList "a\n\nb".toList = "  a\n\n  b".toList := by decide

end StubForge.Text
