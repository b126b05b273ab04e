import StubForge.Text.Lines
import StubForge.Text.Quoted

/-! Brackets outside string literals: what it means that they nest, and a scan from left to right
that tells. -/
namespace StubForge.Text

/-! ## Nesting -/

/-- The bracket that closes the given one. -/
def closing? : Char → Option Char
  | '(' => some ')'
  | '[' => some ']'
  | '{' => some '}'
  | _ => none

def isBracket (c : Char) : Bool := ['(', ')', '[', ']', '{', '}'].contains c

/-- A correctly nested word of brackets. -/
inductive Nested : List Char → Prop
  | nil : Nested []
  | append {v w : List Char} : Nested v → Nested w → Nested (v ++ w)
  | enclose {o c : Char} {w : List Char} : closing? o = some c → Nested w →
      Nested (o :: (w ++ [c]))

/-- Where a reader of a source is: outside any string literal, inside one, or inside one and behind
the backslash that escapes the next character. -/
inductive Position
  | outside
  | literal
  | escaped
  deriving DecidableEq, Repr

/-- What is left of a text without its string literals, read from the position on. Nothing if a
literal has no end or a backslash is in no literal. -/
def withoutLiterals : Position → List Char → Option (List Char)
  | .outside, [] => some []
  | _, [] => none
  | .outside, c :: r =>
    if c = '"' then withoutLiterals .literal r
    else if c = '\\' then none
    else (withoutLiterals .outside r).map (c :: ·)
  | .literal, c :: r =>
    withoutLiterals (if c = '"' then .outside else if c = '\\' then .escaped else .literal) r
  | .escaped, _ :: r => withoutLiterals .literal r

/-- The brackets outside string literals nest. -/
def Balanced (t : String) : Prop :=
  ∃ w, withoutLiterals .outside t.toList = some w ∧ Nested (w.filter isBracket)

/-! ## Scan -/

/-- A position and the brackets that have to close before the end, the next one first. -/
structure Scan where
  pending : List Char
  position : Position
  deriving DecidableEq, Repr

namespace Scan

def start : Scan := ⟨[], .outside⟩

/-- Nothing if a bracket closes that is not the next to close, or if a backslash is in no
literal. -/
def step (s : Scan) (c : Char) : Option Scan :=
  match s.position with
  | .outside =>
    if c = '"' then some ⟨s.pending, .literal⟩
    else if c = '\\' then none
    else match closing? c with
      | some d => some ⟨d :: s.pending, .outside⟩
      | none =>
        if isBracket c then
          match s.pending with
          | d :: r => if d = c then some ⟨r, .outside⟩ else none
          | [] => none
        else some s
  | .literal =>
    some ⟨s.pending, if c = '"' then .outside else if c = '\\' then .escaped else .literal⟩
  | .escaped => some ⟨s.pending, .literal⟩

def run (s : Scan) (t : List Char) : Option Scan := t.foldlM step s

@[simp] theorem run_nil (s : Scan) : s.run [] = some s := rfl

@[simp] theorem run_cons (s : Scan) (c : Char) (t : List Char) :
    s.run (c :: t) = (s.step c).bind (·.run t) := rfl

theorem run_append (s : Scan) (t u : List Char) : s.run (t ++ u) = (s.run t).bind (·.run u) :=
  List.foldlM_append

end Scan

/-- A word that closes the pending brackets one after the other, with nested words around them. -/
inductive Closes : List Char → List Char → Prop
  | nil {w : List Char} : Nested w → Closes [] w
  | cons {c : Char} {pending v w : List Char} : Nested v → Closes pending w →
      Closes (c :: pending) (v ++ c :: w)

theorem Closes.append {pending v w : List Char} (hv : Nested v) (hw : Closes pending w) :
    Closes pending (v ++ w) := by
  cases hw with
  | nil hw => exact .nil (hv.append hw)
  | cons hu hw =>
    rw [← List.append_assoc]
    exact .cons (hv.append hu) hw

/-- An opening bracket: its closing one is the first that is pending after it. -/
theorem Closes.of_opening {o c : Char} (ho : closing? o = some c) {pending w : List Char}
    (h : Closes (c :: pending) w) : Closes pending (o :: w) := by
  obtain _ | ⟨hv, hw⟩ := h
  rename_i v w
  have hsplit : o :: (v ++ c :: w) = o :: (v ++ [c]) ++ w := by simp
  rw [hsplit]
  exact hw.append (.enclose ho hv)

theorem isBracket_of_closing? {o c : Char} (h : closing? o = some c) : isBracket o = true := by
  unfold closing? at h
  split at h <;> first | rfl | cases h

/-- What a step outside a literal can do: enter one, or take a character that stays in the text. A
bracket then opens or closes. -/
theorem Scan.step_outside {pending : List Char} {c : Char} {s : Scan}
    (h : step ⟨pending, .outside⟩ c = some s) :
    (c = '"' ∧ s = ⟨pending, .literal⟩) ∨
    ((c ≠ '"' ∧ c ≠ '\\') ∧ s.position = .outside ∧
      ((∃ d, closing? c = some d ∧ s.pending = d :: pending) ∨
        (closing? c = none ∧ isBracket c = true ∧ pending = c :: s.pending) ∨
        (isBracket c = false ∧ s.pending = pending))) := by
  simp only [step] at h
  split at h
  · rename_i hquote
    exact .inl ⟨hquote, (Option.some.inj h).symm⟩
  · rename_i hquote
    split at h
    · cases h
    · rename_i hbackslash
      refine .inr ⟨⟨hquote, hbackslash⟩, ?_⟩
      split at h
      · rename_i d hclosing
        cases h
        exact ⟨rfl, .inl ⟨d, hclosing, rfl⟩⟩
      · rename_i hopening
        split at h
        · rename_i hbracket
          cases pending with
          | nil => cases h
          | cons d r =>
            simp only at h
            split at h
            · rename_i heq
              cases h
              exact ⟨rfl, .inr (.inl ⟨hopening, hbracket, by rw [heq]⟩)⟩
            · cases h
        · rename_i hbracket
          cases h
          exact ⟨rfl, .inr (.inr ⟨Bool.eq_false_iff.2 hbracket, rfl⟩)⟩

/-- A scan that ends with nothing pending has read a text whose brackets close all that was. -/
theorem closes_of_run {s : Scan} {t : List Char} (h : s.run t = some .start) :
    ∃ w, withoutLiterals s.position t = some w ∧ Closes s.pending (w.filter isBracket) := by
  induction t generalizing s with
  | nil =>
    rw [Scan.run_nil, Option.some.injEq] at h
    rw [h]
    exact ⟨[], rfl, .nil .nil⟩
  | cons c t ih =>
    rw [Scan.run_cons, Option.bind_eq_some_iff] at h
    obtain ⟨s', hstep, hrun⟩ := h
    obtain ⟨w, hw, hcloses⟩ := ih hrun
    obtain ⟨pending, position⟩ := s
    cases position with
    | escaped =>
      cases hstep
      exact ⟨w, hw, hcloses⟩
    | literal =>
      cases hstep
      exact ⟨w, hw, hcloses⟩
    | outside =>
      simp only [withoutLiterals]
      obtain ⟨hquote, rfl⟩ | ⟨⟨hquote, hbackslash⟩, hposition, hc⟩ := Scan.step_outside hstep
      · exact ⟨w, by rw [if_pos hquote, hw], hcloses⟩
      · rw [hposition] at hw
        refine ⟨c :: w, by rw [if_neg hquote, if_neg hbackslash, hw, Option.map_some], ?_⟩
        obtain ⟨d, hopening, hpending⟩ | ⟨-, hclosing, hpending⟩ | ⟨hother, hpending⟩ := hc
        · rw [List.filter_cons_of_pos (isBracket_of_closing? hopening)]
          rw [hpending] at hcloses
          exact hcloses.of_opening hopening
        · rw [List.filter_cons_of_pos hclosing, hpending]
          exact .cons .nil hcloses
        · rw [List.filter_cons_of_neg (by simp [hother]), ← hpending]
          exact hcloses

/-! ## Texts that leave nothing pending -/

/-- A text that a scan passes without a change. -/
def Neutral (t : String) : Prop := Scan.start.run t.toList = some .start

instance (t : String) : Decidable (Neutral t) :=
  inferInstanceAs (Decidable (Scan.start.run t.toList = some .start))

theorem Neutral.balanced {t : String} (h : Neutral t) : Balanced t := by
  obtain ⟨w, hw, hcloses⟩ := closes_of_run h
  obtain ⟨hnested⟩ := hcloses
  exact ⟨w, hw, hnested⟩

theorem Scan.step_pending {s s' : Scan} {c : Char} (h : s.step c = some s') (outer : List Char) :
    step ⟨s.pending ++ outer, s.position⟩ c = some ⟨s'.pending ++ outer, s'.position⟩ := by
  obtain ⟨pending, position⟩ := s
  cases position with
  | escaped =>
    cases h
    rfl
  | literal =>
    cases h
    rfl
  | outside =>
    obtain ⟨hquote, rfl⟩ | ⟨⟨hquote, hbackslash⟩, hposition, hc⟩ := step_outside h
    · simp [step, hquote]
    · simp only [step, if_neg hquote, if_neg hbackslash, hposition]
      obtain ⟨d, hopening, hpending⟩ | ⟨hopening, hclosing, hpending⟩ | ⟨hother, hpending⟩ := hc
      · simp [hopening, hpending]
      · simp [hopening, hclosing, hpending]
      · cases hopening : closing? c with
        | some d => simp [isBracket_of_closing? hopening] at hother
        | none => simp [hother, hpending]

/-- What was pending before a text stays out of its way. -/
theorem Scan.run_pending {s s' : Scan} {t : List Char} (h : s.run t = some s')
    (outer : List Char) :
    Scan.run ⟨s.pending ++ outer, s.position⟩ t = some ⟨s'.pending ++ outer, s'.position⟩ := by
  induction t generalizing s with
  | nil =>
    cases h
    rfl
  | cons c t ih =>
    rw [run_cons, Option.bind_eq_some_iff] at h ⊢
    obtain ⟨u, hu, ht⟩ := h
    exact ⟨_, step_pending hu outer, ih ht⟩

theorem Neutral.run {t : String} (h : Neutral t) (pending : List Char) :
    Scan.run ⟨pending, .outside⟩ t.toList = some ⟨pending, .outside⟩ :=
  Scan.run_pending h pending

theorem neutral_empty : Neutral "" := by
  rw [Neutral, String.toList_empty]
  rfl

theorem Neutral.append {t u : String} (ht : Neutral t) (hu : Neutral u) : Neutral (t ++ u) := by
  rw [Neutral, String.toList_append, Scan.run_append, ht, Option.bind_some, hu]

theorem neutral_ofList {chars : List Char} (h : Scan.start.run chars = some .start) :
    Neutral (String.ofList chars) := by rw [Neutral, String.toList_ofList, h]

/-- A neutral text between two that belong together. -/
theorem Neutral.enclose {t : String} {before after : List Char} (ht : Neutral t)
    (pending : List Char) (hbefore : Scan.start.run before = some ⟨pending, .outside⟩)
    (hafter : Scan.run ⟨pending, .outside⟩ after = some .start) :
    Neutral (String.ofList before ++ t ++ String.ofList after) := by
  rw [Neutral, String.toList_append, String.toList_append, String.toList_ofList,
    String.toList_ofList, Scan.run_append, Scan.run_append, hbefore, Option.bind_some, ht.run,
    Option.bind_some, hafter]

theorem Neutral.intercalate {between : String} (hbetween : Neutral between) {ts : List String}
    (h : ∀ t ∈ ts, Neutral t) : Neutral (between.intercalate ts) := by
  induction ts with
  | nil => exact neutral_empty
  | cons t ts ih =>
    obtain ⟨ht, hts⟩ := List.forall_mem_cons.1 h
    cases ts with
    | nil =>
      rw [String.intercalate_singleton]
      exact ht
    | cons u us =>
      rw [String.intercalate_cons_cons]
      exact (ht.append hbetween).append (ih hts)

/-! ## Plain texts -/

/-- A character that a scan looks at. -/
def isMark (c : Char) : Bool := isBracket c || c == '"' || c == '\\'

/-- A text without any of these. -/
def Plain (t : String) : Prop := ∀ c ∈ t.toList, isMark c = false

-- Only the characters of the text are looked at, and not all that there are.
instance (t : String) : Decidable (Plain t) :=
  List.decidableBAll (fun c => isMark c = false) t.toList

theorem Scan.step_of_not_mark {s : Scan} (hs : s.position ≠ .escaped) {c : Char}
    (hc : isMark c = false) : s.step c = some s := by
  simp only [isMark, Bool.or_eq_false_iff, beq_eq_false_iff_ne] at hc
  obtain ⟨⟨hbracket, hquote⟩, hbackslash⟩ := hc
  have hclosing : closing? c = none := by
    cases h : closing? c with
    | none => rfl
    | some d => rw [isBracket_of_closing? h] at hbracket; cases hbracket
  obtain ⟨pending, position⟩ := s
  cases position with
  | escaped => exact absurd rfl hs
  | literal => simp [step, hquote, hbackslash]
  | outside => simp [step, hquote, hbackslash, hclosing, hbracket]

theorem Scan.run_of_plain {s : Scan} (hs : s.position ≠ .escaped) {t : List Char}
    (h : ∀ c ∈ t, isMark c = false) : s.run t = some s := by
  induction t with
  | nil => rfl
  | cons c t ih =>
    obtain ⟨hc, ht⟩ := List.forall_mem_cons.1 h
    rw [run_cons, step_of_not_mark hs hc, Option.bind_some, ih ht]

theorem Plain.neutral {t : String} (h : Plain t) : Neutral t :=
  Scan.run_of_plain (by decide) h

/-- The kernel takes a literal for `String.ofList` of its characters, so a check of these is all
that has to be evaluated. -/
theorem plain_ofList {chars : List Char} (h : chars.all (!isMark ·) = true) :
    Plain (String.ofList chars) := by
  intro c hc
  rw [String.toList_ofList] at hc
  simpa using List.all_eq_true.1 h c hc

theorem plain_empty : Plain "" := by
  rw [Plain, String.toList_empty]
  nofun

theorem Plain.append {t u : String} (ht : Plain t) (hu : Plain u) : Plain (t ++ u) := by
  rw [Plain, String.toList_append, List.forall_mem_append]
  exact ⟨ht, hu⟩

theorem Plain.intercalate {between : String} (hbetween : Plain between) {ts : List String}
    (h : ∀ t ∈ ts, Plain t) : Plain (between.intercalate ts) := by
  induction ts with
  | nil => exact plain_empty
  | cons t ts ih =>
    obtain ⟨ht, hts⟩ := List.forall_mem_cons.1 h
    cases ts with
    | nil =>
      rw [String.intercalate_singleton]
      exact ht
    | cons u us =>
      rw [String.intercalate_cons_cons]
      exact (ht.append hbetween).append (ih hts)

/-! ## Decision -/

/-- Outside literals a nested word opens and closes its own brackets. -/
theorem Nested.run {w : List Char} (h : Nested w) (pending : List Char) :
    Scan.run ⟨pending, .outside⟩ w = some ⟨pending, .outside⟩ := by
  induction h generalizing pending with
  | nil => rfl
  | append _ _ ihv ihw => rw [Scan.run_append, ihv, Option.bind_some, ihw]
  | @enclose o c w hclosing _ ih =>
    have hopen : Scan.step ⟨pending, .outside⟩ o = some ⟨c :: pending, .outside⟩ := by
      unfold closing? at hclosing
      split at hclosing <;> cases hclosing <;> rfl
    have hclose : Scan.step ⟨c :: pending, .outside⟩ c = some ⟨pending, .outside⟩ := by
      unfold closing? at hclosing
      split at hclosing <;> cases hclosing <;> simp [Scan.step, closing?, isBracket]
    rw [Scan.run_cons, hopen, Option.bind_some, Scan.run_append, ih, Option.bind_some,
      Scan.run_cons, hclose]
    rfl

theorem run_of_withoutLiterals {position : Position} {t w : List Char}
    (h : withoutLiterals position t = some w) (pending : List Char) :
    Scan.run ⟨pending, position⟩ t = Scan.run ⟨pending, .outside⟩ (w.filter isBracket) := by
  induction t generalizing position w pending with
  | nil => cases position <;> cases h; rfl
  | cons c t ih =>
    cases position with
    | escaped => exact ih h pending
    | literal => exact ih h pending
    | outside =>
      rw [withoutLiterals] at h
      split at h
      · rename_i hquote
        rw [Scan.run_cons, Scan.step, if_pos hquote, Option.bind_some, ih h]
      · rename_i hquote
        split at h
        · cases h
        · rename_i hbackslash
          obtain ⟨v, hv, rfl⟩ := Option.map_eq_some_iff.1 h
          by_cases hbracket : isBracket c = true
          · rw [List.filter_cons_of_pos hbracket, Scan.run_cons, Scan.run_cons]
            cases hstep : Scan.step ⟨pending, .outside⟩ c with
            | none => rfl
            | some s =>
              obtain ⟨hc, -⟩ | ⟨-, hposition, -⟩ := Scan.step_outside hstep
              · exact absurd hc hquote
              · obtain ⟨pending', position⟩ := s
                cases hposition
                exact ih hv pending'
          · have hmark : isMark c = false := by simp [isMark, hbracket, hquote, hbackslash]
            rw [List.filter_cons_of_neg hbracket, Scan.run_cons,
              Scan.step_of_not_mark (by simp) hmark, Option.bind_some, ih hv]

/-- The scan decides whether brackets nest. -/
theorem balanced_iff {t : String} : Balanced t ↔ Neutral t := by
  refine ⟨?_, Neutral.balanced⟩
  rintro ⟨w, hw, hnested⟩
  rw [Neutral, Scan.start, run_of_withoutLiterals hw, hnested.run]

instance (t : String) : Decidable (Balanced t) := decidable_of_iff _ balanced_iff.symm

example : Balanced "f(\"]\\\"\", [x])" ∧ ¬ Balanced "(]" ∧ ¬ Balanced "\"" := by decide +kernel

/-! ## Literals -/

theorem isMark_of_mem_hexDigits {width n : Nat} {c : Char} (h : c ∈ hexDigits width n) :
    isMark c = false := by
  obtain ⟨m, hm, rfl⟩ := exists_of_mem_hexDigits h
  have hdigit : ∀ m < 16, isMark (hexDigit m) = false := by decide
  exact hdigit m hm

/-- Whatever a character is, its escaped form is inside the literal from its first to its last
character. -/
theorem Scan.run_escape (pending : List Char) (c : Char) :
    Scan.run ⟨pending, .literal⟩ (escape c) = some ⟨pending, .literal⟩ := by
  have hdigits : Scan.run ⟨pending, .literal⟩ (hexDigits 4 c.toNat) = some ⟨pending, .literal⟩ :=
    run_of_plain (by simp) fun d hd => isMark_of_mem_hexDigits hd
  unfold escape
  split
  · rfl
  · rename_i hquote
    split
    · rfl
    · rename_i hbackslash
      iterate 3
        split
        · rfl
      split
      · exact hdigits
      · simp [step, hquote, hbackslash]

theorem neutral_quote (t : String) : Neutral (quote t) := by
  have hbody (cs : List Char) :
      Scan.run ⟨[], .literal⟩ (cs.flatMap escape) = some ⟨[], .literal⟩ := by
    induction cs with
    | nil => rfl
    | cons c cs ih =>
      rw [List.flatMap_cons, Scan.run_append, Scan.run_escape, Option.bind_some, ih]
  rw [Neutral, toList_quote, quoteChars, Scan.run_cons]
  show Scan.run ⟨[], .literal⟩ (t.toList.flatMap escape ++ ['"']) = _
  rw [Scan.run_append, hbody]
  rfl

/-! ## Margins -/

theorem Scan.position_step_lineFeed {s s' : Scan} (h : s.step '\n' = some s') :
    s'.position ≠ .escaped := by
  obtain ⟨pending, position⟩ := s
  cases position <;> cases h <;> simp

/-- Every line but the last ends with a line feed. -/
theorem getLast?_of_mem_lines {t l : List Char} (h : l ∈ (lines t).dropLast) :
    l.getLast? = some '\n' := by
  induction t generalizing l with
  | nil => cases h
  | cons c t ih =>
    rw [lines] at h
    split at h
    · rename_i hfeed
      cases hlines : lines t with
      | nil => simp [hlines] at h
      | cons first rest =>
        rw [hlines, List.dropLast_cons_cons, List.mem_cons] at h
        rcases h with rfl | h
        · rw [hfeed]
          rfl
        · exact ih (hlines ▸ h)
    · cases hlines : lines t with
      | nil => simp [hlines] at h
      | cons first rest =>
        rw [hlines] at h ih
        cases rest with
        | nil => simp at h
        | cons second rest =>
          rw [List.dropLast_cons_cons, List.mem_cons] at h
          rcases h with rfl | h
          · rw [List.getLast?_cons, ih List.mem_cons_self]
            rfl
          · exact ih (List.mem_cons_of_mem first h)

/-- Behind a line feed a scan is never at a character that is escaped. -/
theorem Scan.position_run_line {s s' : Scan} {l : List Char} (hl : l.getLast? = some '\n')
    (h : s.run l = some s') : s'.position ≠ .escaped := by
  obtain ⟨init, rfl⟩ := List.getLast?_eq_some_iff.1 hl
  rw [run_append, Option.bind_eq_some_iff] at h
  obtain ⟨u, -, h⟩ := h
  rw [run_cons, Option.bind_eq_some_iff] at h
  obtain ⟨v, hv, h⟩ := h
  cases h
  exact position_step_lineFeed hv

/-- A plain margin does not change what a scan makes of a text. -/
theorem Scan.run_indentLines {margin : List Char} (hmargin : ∀ c ∈ margin, isMark c = false)
    {s : Scan} (hs : s.position ≠ .escaped) (t : List Char) :
    s.run (indentLines margin t) = s.run t := by
  have hline {s : Scan} (hs : s.position ≠ .escaped) (l : List Char) :
      s.run (indentLine margin l) = s.run l := by
    rw [indentLine]
    split
    · rfl
    · rw [run_append, run_of_plain hs hmargin, Option.bind_some]
  have hlines (ls : List (List Char)) (hends : ∀ l ∈ ls.dropLast, l.getLast? = some '\n')
      {s : Scan} (hs : s.position ≠ .escaped) :
      s.run (ls.flatMap (indentLine margin)) = s.run ls.flatten := by
    induction ls generalizing s with
    | nil => rfl
    | cons l ls ih =>
      rw [List.flatMap_cons, List.flatten_cons, run_append, run_append, hline hs]
      cases hrun : s.run l with
      | none => rfl
      | some s' =>
        rw [Option.bind_some, Option.bind_some]
        cases ls with
        | nil => rfl
        | cons second ls =>
          rw [List.dropLast_cons_cons, List.forall_mem_cons] at hends
          exact ih hends.2 (position_run_line hends.1 hrun)
  have ht := hlines (lines t) (fun _ => getLast?_of_mem_lines) hs
  rwa [flatten_lines] at ht

end StubForge.Text
