/-! Cutting a text at separators. -/
namespace StubForge.Text

/-- The pieces between the characters that `p` picks: always one more than there are of those. -/
def split (p : Char → Bool) : List Char → List (List Char)
  | [] => [[]]
  | c :: r =>
    if p c then [] :: split p r
    else match split p r with
      | [] => [[c]]
      | w :: ws => (c :: w) :: ws

theorem split_ne_nil (p : Char → Bool) (t : List Char) : split p t ≠ [] := by
  induction t with
  | nil => simp [split]
  | cons c r ih => rw [split]; split <;> (try split) <;> simp

@[simp] theorem split_nil (p : Char → Bool) : split p [] = [[]] := rfl

@[simp] theorem split_cons_of_pos {p : Char → Bool} {c : Char} (h : p c = true) (r : List Char) :
    split p (c :: r) = [] :: split p r := by simp [split, h]

/-- The pieces that are not empty. -/
def fields (p : Char → Bool) (t : List Char) : List (List Char) := (split p t).filter (· ≠ [])

/-- The same pieces as strings. -/
def splitString (p : Char → Bool) (s : String) : List String := (split p s.toList).map String.ofList

example : split (· == '.') "a..b".toList = ["a".toList, [], "b".toList] := by decide
example : fields (· == '_') "_a__b".toList = ["a".toList, "b".toList] := by decide

end StubForge.Text
