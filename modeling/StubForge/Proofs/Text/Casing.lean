import Mathlib.Data.List.TakeWhile
import StubForge.Proofs.Text.Split
import StubForge.Text.Casing

/-! Casing adds no signs: one in the casing of a name is in the name already, but for the underscore
between words. And no word starts small in title case. -/
namespace StubForge.Text

/-- The visible characters of ASCII that are not letters. -/
def isSign (c : Char) : Bool := decide (0x20 < c.toNat) && decide (c.toNat < 0x7f) && !c.isAlpha

theorem ascii_forall {P : Char → Prop} (h : ∀ n < 128, P (Char.ofNat n)) :
    ∀ c, isAscii c = true → P c := by
  intro c hc
  have hcode := h c.toNat (of_decide_eq_true hc)
  rwa [Char.ofNat_toNat] at hcode

theorem toNat_ofNat_of_ne {n : Nat} (h : (Char.ofNat n).toNat ≠ 0) : (Char.ofNat n).toNat = n := by
  by_cases hv : n.isValidChar
  · rw [Char.ofNat, dif_pos hv]
    rfl
  · rw [Char.ofNat, dif_neg hv] at h
    exact absurd rfl h

/-! ## Tables -/

/-- Whatever the rows give is outside ASCII, or a code between two that rows for one letter give. -/
def leadsTo (first last : Nat) (shifts : List CaseShift) (expansions : List (Nat × List Nat)) :
    Bool :=
  shifts.all (fun row => decide ((128 : Int) ≤ row.letters.first + row.offset) ||
    (decide (row.letters.first = row.letters.last) &&
      decide ((first : Int) ≤ row.letters.first + row.offset) &&
      decide (row.letters.first + row.offset ≤ (last : Int)))) &&
  expansions.all fun (_, codes) => codes.all fun code =>
    decide (128 ≤ code) || (decide (first ≤ code) && decide (code ≤ last))

section
variable {first last : Nat} {shifts : List CaseShift} {expansions : List (Nat × List Nat)}

theorem code_of_shifted? (h : leadsTo first last shifts expansions = true) {n m : Nat}
    (hm : shifted? shifts n = some m) : 128 ≤ m ∨ first ≤ m ∧ m ≤ last := by
  simp only [leadsTo, Bool.and_eq_true, Bool.or_eq_true, List.all_eq_true,
    decide_eq_true_eq] at h
  obtain ⟨row, hrow, rfl⟩ := Option.map_eq_some_iff.1 hm
  have hholds := List.find?_some hrow
  simp only [CodeRange.holds, Bool.and_eq_true, decide_eq_true_eq] at hholds
  have hgives := h.1 row (List.mem_of_find?_eq_some hrow)
  omega

theorem code_of_mem_mapped (h : leadsTo first last shifts expansions = true) {c x : Char}
    (hc : c ∈ mapped shifts expansions x) :
    c = x ∨ c.toNat = 0 ∨ 128 ≤ c.toNat ∨ first ≤ c.toNat ∧ c.toNat ≤ last := by
  -- A code that is no character at all stands for the null character.
  have hcode {code : Nat} (hcode : 128 ≤ code ∨ first ≤ code ∧ code ≤ last)
      (hofNat : c = Char.ofNat code) :
      c.toNat = 0 ∨ 128 ≤ c.toNat ∨ first ≤ c.toNat ∧ c.toNat ≤ last := by
    by_cases hzero : c.toNat = 0
    · exact .inl hzero
    · rw [hofNat] at hzero ⊢
      rw [toNat_ofNat_of_ne hzero]
      exact .inr hcode
  rw [mapped] at hc
  cases hlookup : expansions.lookup x.toNat with
  | some codes =>
    rw [hlookup] at hc
    obtain ⟨code, hmem, hofNat⟩ := List.mem_map.1 hc
    obtain ⟨before, after, hsplit, -⟩ := List.lookup_eq_some_iff.1 hlookup
    have hrow : (x.toNat, codes) ∈ expansions := by simp [hsplit]
    simp only [leadsTo, Bool.and_eq_true, Bool.or_eq_true, List.all_eq_true,
      decide_eq_true_eq] at h
    exact .inr (hcode (h.2 _ hrow code hmem) hofNat.symm)
  | none =>
    simp only [hlookup, List.mem_singleton] at hc
    cases hshift : shifted? shifts x.toNat with
    | none =>
      left
      simpa [hshift] using hc
    | some m =>
      rw [hshift, Option.map_some, Option.getD_some] at hc
      exact .inr (hcode (code_of_shifted? h hshift) hc)

end

theorem capital_leadsTo : leadsTo 65 90 capitalShifts capitalExpansions = true := by
  decide +kernel

theorem small_leadsTo : leadsTo 97 122 smallShifts smallExpansions = true := by decide +kernel

/-! ## Letters of ASCII -/

theorem isUpper_iff {c : Char} : c.isUpper = true ↔ 65 ≤ c.toNat ∧ c.toNat ≤ 90 := by
  have hrange : c.isUpper = decide ('A'.val ≤ c.val ∧ c.val ≤ 'Z'.val) := rfl
  simp [hrange, UInt32.le_iff_toNat_le]

theorem isLower_iff {c : Char} : c.isLower = true ↔ 97 ≤ c.toNat ∧ c.toNat ≤ 122 := by
  have hrange : c.isLower = (decide ('a'.val ≤ c.val) && decide (c.val ≤ 'z'.val)) := rfl
  simp [hrange, UInt32.le_iff_toNat_le]

theorem isAlpha_eq (c : Char) : c.isAlpha = (c.isUpper || c.isLower) := rfl

theorem isUpper_of_isLower {c : Char} (h : c.isLower = true) : c.isUpper = false := by
  rw [isLower_iff] at h
  rw [Bool.eq_false_iff, Ne, isUpper_iff]
  omega

theorem isLower_of_isUpper {c : Char} (h : c.isUpper = true) : c.isLower = false := by
  rw [isUpper_iff] at h
  rw [Bool.eq_false_iff, Ne, isLower_iff]
  omega

/-- Only letters are cased, and each form of a letter is got from the other. -/
theorem ascii_casing : ∀ c, isAscii c = true →
    (c.isAlpha = false → c.toUpper = c ∧ c.toLower = c) ∧
    (c.isAlpha = true → c.toUpper.isUpper = true ∧ c.toLower.isLower = true ∧
      c.toLower.toUpper = c.toUpper) ∧
    (c.isUpper = true → c.toUpper = c) ∧ (c.isLower = true → c.toLower = c) ∧
    (c.isUpper = false → c.toUpper.toLower = c) := ascii_forall (by decide +kernel)

section
variable {c : Char} (h : isAscii c = true)
include h

/-- A capital form is that of a letter, or the character itself. -/
theorem isUpper_toUpper_or : c.toUpper.isUpper = true ∨ c.isAlpha = false ∧ c.toUpper = c := by
  obtain ⟨hother, hletter, -⟩ := ascii_casing c h
  cases halpha : c.isAlpha with
  | true => exact .inl (hletter halpha).1
  | false => exact .inr ⟨rfl, (hother halpha).1⟩

theorem isLower_toLower_or : c.toLower.isLower = true ∨ c.isAlpha = false ∧ c.toLower = c := by
  obtain ⟨hother, hletter, -⟩ := ascii_casing c h
  cases halpha : c.isAlpha with
  | true => exact .inl (hletter halpha).2.1
  | false => exact .inr ⟨rfl, (hother halpha).2⟩

theorem isLower_toUpper_of_isAscii : c.toUpper.isLower = false := by
  rcases isUpper_toUpper_or h with hupper | ⟨halpha, heq⟩
  · exact isLower_of_isUpper hupper
  · rw [isAlpha_eq, Bool.or_eq_false_iff] at halpha
    rw [heq, halpha.2]

end

/-! ## Signs -/

theorem isSign_iff {c : Char} : isSign c = true ↔ 0x20 < c.toNat ∧ c.toNat < 0x7f ∧
    ¬ (65 ≤ c.toNat ∧ c.toNat ≤ 90) ∧ ¬ (97 ≤ c.toNat ∧ c.toNat ≤ 122) := by
  simp only [isSign, isAlpha_eq, Bool.and_eq_true, decide_eq_true_eq, Bool.not_eq_true',
    Bool.eq_false_iff, Ne, Bool.or_eq_true, not_or, isUpper_iff, isLower_iff, and_assoc]

theorem sign_mem_capital {c x : Char} (hc : isSign c = true) (h : c ∈ capital x) : c = x := by
  rw [capital] at h
  split at h
  · rename_i hascii
    rw [List.mem_singleton.1 h] at hc ⊢
    refine (isUpper_toUpper_or hascii).elim (fun hupper => ?_) And.right
    rw [isSign_iff, ← isUpper_iff] at hc
    exact absurd hupper hc.2.2.1
  · rw [isSign_iff] at hc
    exact (code_of_mem_mapped capital_leadsTo h).resolve_right (by omega)

theorem sign_mem_small {c x : Char} (hc : isSign c = true) (h : c ∈ small x) : c = x := by
  rw [small] at h
  split at h
  · rename_i hascii
    rw [List.mem_singleton.1 h] at hc ⊢
    refine (isLower_toLower_or hascii).elim (fun hlower => ?_) And.right
    rw [isSign_iff, ← isLower_iff] at hc
    exact absurd hlower hc.2.2.2
  · rw [isSign_iff] at hc
    exact (code_of_mem_mapped small_leadsTo h).resolve_right (by omega)

section
variable {c : Char} (hc : isSign c = true)
include hc

theorem sign_mem_smallAfter {before t : List Char} (h : c ∈ smallAfter before t) : c ∈ t := by
  induction t generalizing before with
  | nil => simp [smallAfter] at h
  | cons x t ih =>
    rw [smallAfter, List.mem_append] at h
    rcases h with h | h
    · split at h
      · have hsigma : isSign 'ς' = false ∧ isSign 'σ' = false := by decide
        rw [List.mem_singleton.1 h] at hc
        split at hc <;> simp_all
      · rw [sign_mem_small hc h]
        exact List.mem_cons_self
    · exact List.mem_cons_of_mem x (ih h)

theorem sign_mem_wordTail {w : List Char} (h : c ∈ wordTail w) : c ∈ w := by
  rw [wordTail] at h
  split at h
  · exact List.mem_of_mem_tail (sign_mem_smallAfter hc h)
  · exact List.mem_of_mem_tail h

theorem sign_mem_titleWord {w : List Char} (h : c ∈ titleWord w) : c ∈ w := by
  cases w with
  | nil => simp [titleWord] at h
  | cons x w =>
    rw [titleWord, List.mem_append] at h
    rcases h with h | h
    · rw [sign_mem_capital hc h]
      exact List.mem_cons_self
    · exact sign_mem_wordTail hc h

theorem sign_mem_camelWord {w : List Char} (h : c ∈ camelWord w) : c ∈ w := by
  cases w with
  | nil => simp [camelWord] at h
  | cons x w =>
    rw [camelWord, List.mem_append] at h
    rcases h with h | h
    · rw [sign_mem_small hc h]
      exact List.mem_cons_self
    · exact sign_mem_wordTail hc h

omit hc in
theorem mem_of_mem_underscoreWords {name w : List Char} (hw : w ∈ underscoreWords name)
    (h : c ∈ w) : c ∈ name := (mem_of_mem_split (List.mem_filter.1 hw).1 h).1

theorem sign_mem_titleCase {name : List Char} (h : c ∈ titleCase name) : c ∈ name := by
  rw [titleCase, List.mem_append, List.mem_flatMap] at h
  rcases h with h | ⟨w, hw, h⟩
  · exact (List.takeWhile_prefix _).mem h
  · exact mem_of_mem_underscoreWords hw (sign_mem_titleWord hc h)

theorem sign_mem_camelCase {name : List Char} (h : c ∈ camelCase name) : c ∈ name := by
  rw [camelCase, List.mem_append] at h
  rcases h with h | h
  · exact (List.takeWhile_prefix _).mem h
  · split at h
    · simp at h
    · rename_i w ws hwords
      rw [List.mem_append, List.mem_flatMap] at h
      rcases h with h | ⟨v, hv, h⟩
      · exact mem_of_mem_underscoreWords (hwords ▸ List.mem_cons_self) (sign_mem_camelWord hc h)
      · exact mem_of_mem_underscoreWords (hwords ▸ List.mem_cons_of_mem w hv)
          (sign_mem_titleWord hc h)

omit hc in
theorem mem_of_mem_humps {mode : ScanMode} {held t w : List Char} (hw : w ∈ humps mode held t)
    (h : c ∈ w) : c ∈ held ∨ c ∈ t := by
  fun_induction humps mode held t with
  | case1 => simp at hw
  | case2 mode held x =>
    rw [List.mem_singleton.1 hw] at h
    simpa [or_comm] using h
  | case3 mode held x y r hhump ih =>
    rcases List.mem_cons.1 hw with rfl | hw
    · rcases List.mem_cons.1 (List.mem_reverse.1 h) with rfl | h
      · exact .inr List.mem_cons_self
      · exact .inl h
    · rcases ih hw with h | h
      · simp at h
      · exact .inr (List.mem_cons_of_mem x h)
  | case4 mode held x y r hhump hcapitals ih =>
    rcases List.mem_cons.1 hw with rfl | hw
    · exact .inl (List.mem_reverse.1 h)
    · rcases ih hw with h | h
      · rw [List.mem_singleton.1 h]
        exact .inr List.mem_cons_self
      · exact .inr (List.mem_cons_of_mem x h)
  | case5 mode held x y r hhump hcapitals ih =>
    rcases ih hw with h | h
    · rcases List.mem_cons.1 h with rfl | h
      · exact .inr List.mem_cons_self
      · exact .inl h
    · exact .inr (List.mem_cons_of_mem x h)

omit hc in
theorem mem_of_mem_words {name w : List Char} (hw : w ∈ words name) (h : c ∈ w) : c ∈ name := by
  obtain ⟨run, hrun, hw⟩ := List.mem_flatMap.1 hw
  rcases mem_of_mem_humps hw h with hheld | hmem
  · cases hheld
  · exact (mem_of_mem_split hrun hmem).1

omit hc in
/-- What is in words that are joined is in one of them or between them. -/
theorem mem_intercalate_map {f : List Char → List Char} {ws : List (List Char)}
    (h : c ∈ ['_'].intercalate (ws.map f)) : c = '_' ∨ ∃ w ∈ ws, c ∈ f w := by
  induction ws with
  | nil => simp [List.intercalate] at h
  | cons w ws ih =>
    cases ws with
    | nil =>
      rw [List.map_singleton, List.intercalate_singleton] at h
      exact .inr ⟨w, List.mem_cons_self, h⟩
    | cons v ws =>
      rw [List.map_cons, List.map_cons, List.intercalate_cons_cons, List.mem_append,
        List.mem_append, List.mem_singleton] at h
      rcases h with (h | h) | h
      · exact .inr ⟨w, List.mem_cons_self, h⟩
      · exact .inl h
      · refine (ih h).imp_right ?_
        rintro ⟨u, hu, h⟩
        exact ⟨u, List.mem_cons_of_mem w hu, h⟩

omit hc in
theorem mem_shoutCase {name : List Char} (h : c ∈ shoutCase name) :
    c = '_' ∨ ∃ w ∈ words name, c ∈ shoutWord w := mem_intercalate_map h

theorem sign_mem_shoutCase (hline : c ≠ '_') {name : List Char} (h : c ∈ shoutCase name) :
    c ∈ name := by
  obtain ⟨w, hw, h⟩ := (mem_shoutCase h).resolve_left hline
  obtain ⟨x, hx, h⟩ := List.mem_flatMap.1 h
  rw [← sign_mem_capital hc h] at hx
  exact mem_of_mem_words hw hx

theorem sign_mem_snakeWord {w : List Char} (h : c ∈ snakeWord w) : c ∈ w := by
  fun_induction snakeWord w with
  | case1 => exact h
  | case2 =>
    have hsigma : isSign 'ς' = false := by decide
    rw [List.mem_singleton.1 h, hsigma] at hc
    cases hc
  | case3 x =>
    rw [sign_mem_small hc h]
    exact List.mem_singleton_self x
  | case4 x r _ ih =>
    rcases List.mem_append.1 h with h | h
    · rw [sign_mem_small hc h]
      exact List.mem_cons_self
    · exact List.mem_cons_of_mem x (ih h)

theorem sign_mem_snakeCase (hline : c ≠ '_') {name : List Char} (h : c ∈ snakeCase name) :
    c ∈ name := by
  obtain ⟨w, hw, h⟩ := (mem_intercalate_map h).resolve_left hline
  exact mem_of_mem_words hw (sign_mem_snakeWord hc h)

end

/-! ## Capitals -/

theorem isLower_of_mem_capital {c x : Char} (h : c ∈ capital x) : c.isLower = false := by
  rw [capital] at h
  split at h
  · rename_i hascii
    rw [List.mem_singleton.1 h]
    exact isLower_toUpper_of_isAscii hascii
  · rename_i hascii
    have hcode := code_of_mem_mapped capital_leadsTo h
    rw [isAscii, decide_eq_true_eq, Nat.not_lt] at hascii
    rw [Bool.eq_false_iff, Ne, isLower_iff]
    rcases hcode with rfl | hcode <;> omega

theorem isLower_of_mem_shoutCase {name : List Char} {c : Char} (h : c ∈ shoutCase name) :
    c.isLower = false := by
  rcases mem_shoutCase h with rfl | ⟨w, -, h⟩
  · rfl
  · obtain ⟨x, -, h⟩ := List.mem_flatMap.1 h
    exact isLower_of_mem_capital h

theorem capital_ne_nil (x : Char) : capital x ≠ [] := by
  have hexpansions : ∀ row ∈ capitalExpansions, row.2 ≠ [] := by decide +kernel
  rw [capital, mapped]
  split
  · simp
  · split
    · rename_i codes hlookup
      obtain ⟨before, after, hsplit, -⟩ := List.lookup_eq_some_iff.1 hlookup
      have hrow : (x.toNat, codes) ∈ capitalExpansions := by simp [hsplit]
      simpa using hexpansions _ hrow
    · simp

/-- What is in title case starts with no small letter of ASCII. -/
theorem isLower_of_titleCase {name rest : List Char} {c : Char} (h : titleCase name = c :: rest) :
    c.isLower = false := by
  rw [titleCase] at h
  cases hleading : leadingUnderscores name with
  | cons l ls =>
    rw [hleading] at h
    obtain ⟨rfl, -⟩ := List.cons.inj h
    have hmem : l ∈ name.takeWhile (· == '_') := by
      rw [leadingUnderscores] at hleading
      simp [hleading]
    rw [beq_iff_eq.1 (List.mem_takeWhile_imp (p := (· == '_')) hmem)]
    rfl
  | nil =>
    rw [hleading, List.nil_append] at h
    cases hwords : underscoreWords name with
    | nil => simp [hwords] at h
    | cons w ws =>
      have hw : w ∈ underscoreWords name := hwords ▸ List.mem_cons_self
      rw [hwords, List.flatMap_cons] at h
      cases w with
      | nil => simp [underscoreWords, fields] at hw
      | cons x w =>
        rw [titleWord, List.append_assoc] at h
        cases hcapital : capital x with
        | nil => exact absurd hcapital (capital_ne_nil x)
        | cons y ys =>
          rw [hcapital] at h
          obtain ⟨rfl, -⟩ := List.cons.inj h
          exact isLower_of_mem_capital (hcapital ▸ List.mem_cons_self)

/-! ## First characters -/

theorem capital_sign {c : Char} (hc : isSign c = true) : capital c = [c] := by
  have hascii : isAscii c = true := decide_eq_true (by rw [isSign_iff] at hc; omega)
  have halpha : c.isAlpha = false := by
    rw [isSign_iff, ← isUpper_iff, ← isLower_iff] at hc
    simp [isAlpha_eq, hc]
  rw [capital, if_pos hascii, ((ascii_casing c hascii).1 halpha).1]

/-- A name starts with the same sign in title case. -/
theorem head?_titleCase {c : Char} (hc : isSign c = true) (hline : c ≠ '_') (name : List Char) :
    (titleCase name).head? = some c ↔ name.head? = some c := by
  cases name with
  | nil => simp [titleCase, leadingUnderscores, underscoreWords, fields]
  | cons x rest =>
    by_cases hx : x = '_'
    · have hne : '_' ≠ c := hline.symm
      simp [hx, hne, titleCase, leadingUnderscores]
    · have hbeq : (x == '_') = false := beq_eq_false_iff_ne.2 hx
      obtain ⟨w, ws, -, hsplit⟩ := split_cons_of_neg (p := (· == '_')) hbeq rest
      obtain ⟨y, ys, hy⟩ := List.exists_cons_of_ne_nil (capital_ne_nil x)
      have htitle : (titleCase (x :: rest)).head? = some y := by
        simp [titleCase, leadingUnderscores, underscoreWords, fields, hbeq, hsplit, titleWord, hy]
      rw [htitle, List.head?_cons, Option.some.injEq, Option.some.injEq]
      constructor
      · rintro rfl
        exact (sign_mem_capital hc (hy ▸ List.mem_cons_self)).symm
      · rintro rfl
        rw [capital_sign hc] at hy
        exact (List.cons.inj hy).1.symm

end StubForge.Text
