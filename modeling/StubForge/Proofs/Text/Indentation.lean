import Mathlib.Data.List.Basic
import StubForge.Text.Lines

/-! Texts behind a margin. As long as the margin has no line feed in it, the lines stay the lines that
they were; so one margin before another is a longer one, and texts of whole lines can be put behind
a margin one by one. -/
namespace StubForge.Text

/-! ## Lines -/

theorem lines_of_notMem {l : List Char} (h : '\n' ∉ l) (hne : l ≠ []) : lines l = [l] := by
  induction l with
  | nil => exact absurd rfl hne
  | cons c r ih =>
    obtain ⟨hc, hr⟩ := List.ne_and_not_mem_of_not_mem_cons h
    rw [lines, if_neg (Ne.symm hc)]
    cases r with
    | nil => rfl
    | cons d r => rw [ih hr (List.cons_ne_nil d r)]

/-- The first line of a text ends with the first line feed. -/
theorem lines_append_feed {l : List Char} (h : '\n' ∉ l) (r : List Char) :
    lines (l ++ '\n' :: r) = (l ++ ['\n']) :: lines r := by
  induction l with
  | nil => rfl
  | cons c l ih =>
    obtain ⟨hc, hl⟩ := List.ne_and_not_mem_of_not_mem_cons h
    rw [List.cons_append, lines, if_neg (Ne.symm hc), ih hl]
    rfl

/-- A text has no line feed, or it is a line with what follows its line feed. -/
theorem lines_induction {P : List Char → Prop} (rest : ∀ l, '\n' ∉ l → P l)
    (line : ∀ l r, '\n' ∉ l → P r → P (l ++ '\n' :: r)) (t : List Char) : P t := by
  induction hlength : t.length using Nat.strongRecOn generalizing t with
  | _ n ih =>
    by_cases h : '\n' ∈ t
    · obtain ⟨l, r, rfl, hl⟩ := List.eq_append_cons_of_mem h
      refine line l r hl (ih r.length ?_ r rfl)
      rw [← hlength, List.length_append, List.length_cons]
      omega
    · exact rest t h

/-- A text of whole lines has its lines, and then come those of the text behind it. -/
theorem lines_append {t : List Char} (h : ∀ c ∈ t.getLast?, c = '\n') (u : List Char) :
    lines (t ++ u) = lines t ++ lines u := by
  induction t using lines_induction with
  | rest l hl =>
    rcases List.eq_nil_or_concat l with rfl | ⟨front, last, rfl⟩
    · rfl
    · obtain rfl := h last (by simp)
      exact absurd (by simp) hl
  | line l r hl ih =>
    have hr : ∀ c ∈ r.getLast?, c = '\n' := by
      intro c hc
      refine h c ?_
      rw [List.getLast?_append_cons, List.getLast?_cons, Option.mem_def.1 hc]
      rfl
    rw [List.append_assoc, List.cons_append, lines_append_feed hl, ih hr, lines_append_feed hl,
      List.cons_append]

/-! ## Margins -/

/-- No margin without a carriage return and a line feed makes a line blank. -/
theorem isBlankLine_append {m : List Char} (hreturn : '\r' ∉ m) (hfeed : '\n' ∉ m) {l : List Char}
    (h : isBlankLine l = false) : isBlankLine (m ++ l) = false := by
  cases m with
  | nil => exact h
  | cons c m =>
    have hr := Ne.symm (List.ne_of_not_mem_cons hreturn)
    have hn := Ne.symm (List.ne_of_not_mem_cons hfeed)
    simp [isBlankLine, hr, hn]

theorem indentLine_indentLine (a : List Char) {b : List Char} (hreturn : '\r' ∉ b)
    (hfeed : '\n' ∉ b) (l : List Char) :
    indentLine a (indentLine b l) = indentLine (a ++ b) l := by
  cases h : isBlankLine l with
  | true => simp only [indentLine, h, if_true]
  | false =>
    have hb := isBlankLine_append hreturn hfeed h
    simp only [indentLine, h, hb, Bool.false_eq_true, if_false, List.append_assoc]

/-- Of a line with a line feed at its end a margin makes such a line. -/
theorem exists_indentLine_feed {m l : List Char} (hm : '\n' ∉ m) (hl : '\n' ∉ l) :
    ∃ l', '\n' ∉ l' ∧ indentLine m (l ++ ['\n']) = l' ++ ['\n'] := by
  cases h : isBlankLine (l ++ ['\n']) with
  | true => exact ⟨l, hl, by rw [indentLine, h, if_pos rfl]⟩
  | false =>
    refine ⟨m ++ l, fun hmem => (List.mem_append.1 hmem).elim hm hl, ?_⟩
    rw [indentLine, h, if_neg Bool.false_ne_true, List.append_assoc]

theorem indentLines_append_feed (m : List Char) {l : List Char} (h : '\n' ∉ l) (r : List Char) :
    indentLines m (l ++ '\n' :: r) = indentLine m (l ++ ['\n']) ++ indentLines m r := by
  rw [indentLines, lines_append_feed h, List.flatMap_cons, indentLines]

theorem indentLine_of_notMem (m : List Char) {l : List Char} (h : '\n' ∉ l) :
    indentLine m l = m ++ l := by
  have hblank : isBlankLine l = false := by
    rw [isBlankLine, Bool.or_eq_false_iff, beq_eq_false_iff_ne, beq_eq_false_iff_ne]
    constructor <;> rintro rfl <;> exact absurd (by simp) h
  rw [indentLine, hblank, if_neg Bool.false_ne_true]

/-- The lines behind a margin are the lines of the text, each behind the margin. -/
theorem lines_indentLines {m : List Char} (hm : '\n' ∉ m) (t : List Char) :
    lines (indentLines m t) = (lines t).map (indentLine m) := by
  induction t using lines_induction with
  -- only a text without a line feed can be a line that is not ended by one
  | rest l hl =>
    by_cases hne : l = []
    · subst hne
      rfl
    · have hmargin : '\n' ∉ m ++ l := fun hmem => (List.mem_append.1 hmem).elim hm hl
      rw [indentLines, lines_of_notMem hl hne, List.flatMap_singleton, List.map_singleton,
        indentLine_of_notMem m hl, lines_of_notMem hmargin (by simp [hne])]
  | line l r hl ih =>
    obtain ⟨l', hl', heq⟩ := exists_indentLine_feed hm hl
    rw [indentLines_append_feed m hl, heq, List.append_assoc, List.singleton_append,
      lines_append_feed hl', ih, lines_append_feed hl, List.map_cons, heq]

/-- A margin before a margin is a longer one. -/
theorem indentLines_indentLines (a : List Char) {b : List Char} (hreturn : '\r' ∉ b)
    (hfeed : '\n' ∉ b) (t : List Char) :
    indentLines a (indentLines b t) = indentLines (a ++ b) t := by
  rw [indentLines, lines_indentLines hfeed, List.flatMap_map, indentLines]
  simp only [indentLine_indentLine a hreturn hfeed]

theorem indentLines_append (m : List Char) {t : List Char} (h : ∀ c ∈ t.getLast?, c = '\n')
    (u : List Char) : indentLines m (t ++ u) = indentLines m t ++ indentLines m u := by
  rw [indentLines, lines_append h, List.flatMap_append, indentLines, indentLines]

/-! ## Texts -/

theorem indent_empty : indent "" = id := by
  funext t
  simp [indent]

theorem indent_indent (a : String) {b : String} (hreturn : '\r' ∉ b.toList)
    (hfeed : '\n' ∉ b.toList) (t : String) : indent a (indent b t) = indent (a ++ b) t := by
  rw [← String.toList_inj, toList_indent, toList_indent, toList_indent, String.toList_append,
    indentLines_indentLines _ hreturn hfeed]

theorem indent_append (m : String) {t : String} (h : ∀ c ∈ t.toList.getLast?, c = '\n')
    (u : String) : indent m (t ++ u) = indent m t ++ indent m u := by
  simp only [← String.toList_inj, toList_indent, String.toList_append, indentLines_append _ h]

end StubForge.Text
