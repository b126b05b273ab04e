import Mathlib.Data.List.Basic
import StubForge.Proofs.Text.Camel

/-! Which names have the same words in capitals, and the names that are got back from theirs. -/
namespace StubForge.Text

/-! ## Letters of ASCII -/

theorem isUppercase_of_isAlphanum {c : Char} (h : c.isAlphanum = true) :
    isUppercase c = c.isUpper := by rw [isUppercase, if_pos (isAscii_of_isAlphanum h)]

theorem isLowercase_of_isAlphanum {c : Char} (h : c.isAlphanum = true) :
    isLowercase c = c.isLower := by rw [isLowercase, if_pos (isAscii_of_isAlphanum h)]

theorem isAlphanum_toUpper {c : Char} (h : c.isAlphanum = true) : c.toUpper.isAlphanum = true := by
  rcases isUpper_toUpper_or (isAscii_of_isAlphanum h) with hupper | ⟨-, heq⟩
  · exact isAlphanum_of_isAlpha (by rw [isAlpha_eq, hupper, Bool.true_or])
  · rwa [heq]

theorem isLower_toUpper {c : Char} (h : c.isAlphanum = true) : c.toUpper.isLower = false :=
  isLower_toUpper_of_isAscii (isAscii_of_isAlphanum h)

theorem toUpper_of_isUpper {c : Char} (h : c.isUpper = true) : c.toUpper = c := by
  have halpha : c.isAlpha = true := by rw [isAlpha_eq, h, Bool.true_or]
  obtain ⟨-, -, hupper, -⟩ := ascii_casing c (isAscii_of_isAlphanum (isAlphanum_of_isAlpha halpha))
  exact hupper h

/-! ## Words -/

theorem ne_nil_of_mem_humps {mode : ScanMode} {held t w : List Char}
    (hheld : mode = .boundary ∨ held ≠ []) (hw : w ∈ humps mode held t) : w ≠ [] := by
  fun_induction humps mode held t with
  | case1 => cases hw
  | case2 mode held c =>
    rw [List.mem_singleton.1 hw]
    simp
  | case3 mode held c n r _ ih =>
    rcases List.mem_cons.1 hw with rfl | hw
    · simp
    · exact ih (.inl rfl) hw
  | case4 mode held c n r _ hcapitals ih =>
    rcases List.mem_cons.1 hw with rfl | hw
    · have hne : held ≠ [] := hheld.resolve_left (by simp [hcapitals.1])
      simpa using hne
    · exact ih (.inl rfl) hw
  | case5 mode held c n r _ _ ih => exact ih (.inr (List.cons_ne_nil _ _)) hw

theorem ne_nil_of_mem_words {name w : List Char} (h : w ∈ words name) : w ≠ [] := by
  obtain ⟨run, -, hw⟩ := List.mem_flatMap.1 h
  exact ne_nil_of_mem_humps (.inl rfl) hw

theorem underscore_notMem_of_mem_words {name w : List Char} (h : w ∈ words name) : '_' ∉ w := by
  intro hmem
  obtain ⟨run, hrun, hw⟩ := List.mem_flatMap.1 h
  rcases mem_of_mem_humps hw hmem with hheld | hmem
  · cases hheld
  · exact absurd (mem_of_mem_split hrun hmem).2 (by decide)

theorem underscore_notMem_shoutWord {w : List Char} (h : '_' ∉ w) : '_' ∉ shoutWord w := by
  intro hmem
  obtain ⟨c, hc, hcapital⟩ := List.mem_flatMap.1 hmem
  rw [← sign_mem_capital (by decide) hcapital] at hc
  exact h hc

theorem shoutWord_ne_nil {w : List Char} (h : w ≠ []) : shoutWord w ≠ [] := by
  cases w with
  | nil => exact absurd rfl h
  | cons c w => simp [shoutWord, capital_ne_nil]

/-! ## Joined words -/

/-- Words that are joined by underscores are the words between the underscores. -/
theorem underscoreWords_intercalate {ws : List (List Char)} (h : ∀ w ∈ ws, w ≠ [] ∧ '_' ∉ w) :
    underscoreWords (['_'].intercalate ws) = ws := by
  rcases eq_or_ne ws [] with rfl | hne
  · rfl
  · have hsplit : (['_'].intercalate ws).splitOn '_' = ws :=
      List.splitOn_intercalate '_' (fun w hw => (h w hw).2) hne
    rw [underscoreWords, fields, split_beq, hsplit, List.filter_eq_self]
    simpa using fun w hw => (h w hw).1

theorem leadingUnderscores_intercalate {ws : List (List Char)}
    (h : ∀ w ∈ ws, w ≠ [] ∧ '_' ∉ w) : leadingUnderscores (['_'].intercalate ws) = [] := by
  cases ws with
  | nil => rfl
  | cons w ws =>
    obtain ⟨hne, hw⟩ := h w List.mem_cons_self
    cases w with
    | nil => exact absurd rfl hne
    | cons c w =>
      have hc : c ≠ '_' := fun heq => hw (heq ▸ List.mem_cons_self)
      cases ws with
      | nil => simp [leadingUnderscores, hc]
      | cons v ws => simp [List.intercalate_cons_cons, leadingUnderscores, hc]

theorem shoutWords_plain (name : List Char) : ∀ w ∈ (words name).map shoutWord, w ≠ [] ∧ '_' ∉ w := by
  intro w hw
  obtain ⟨v, hv, rfl⟩ := List.mem_map.1 hw
  exact ⟨shoutWord_ne_nil (ne_nil_of_mem_words hv),
    underscore_notMem_shoutWord (underscore_notMem_of_mem_words hv)⟩

theorem underscoreWords_shoutCase (name : List Char) :
    underscoreWords (shoutCase name) = (words name).map shoutWord :=
  underscoreWords_intercalate (shoutWords_plain name)

/-- Two names are one in capitals exactly if they have the same words there. -/
theorem shoutCase_eq_iff {a b : List Char} :
    shoutCase a = shoutCase b ↔ (words a).map shoutWord = (words b).map shoutWord := by
  constructor
  · intro h
    rw [← underscoreWords_shoutCase, ← underscoreWords_shoutCase, h]
  · intro h
    rw [shoutCase, shoutCase, h]

/-! ## Humps -/

/-- Letters and digits of ASCII, where a small letter comes after each capital unless it is the
last. -/
def capitalsLead : List Char → Bool
  | [] => true
  | [c] => c.isAlphanum
  | c :: n :: r => c.isAlphanum && (!c.isUpper || n.isLower) && capitalsLead (n :: r)

/-- A small letter first, and then each capital starts a word. -/
def isHumped (t : List Char) : Bool := t.head?.any Char.isLower && capitalsLead t

theorem isAlphanum_of_capitalsLead {t : List Char} (h : capitalsLead t = true) :
    ∀ c ∈ t, c.isAlphanum = true := by
  fun_induction capitalsLead t with
  | case1 => simp
  | case2 c => simpa [capitalsLead] using h
  | case3 c n r ih =>
    simp only [Bool.and_eq_true] at h
    exact List.forall_mem_cons.2 ⟨h.1.1, ih h.2⟩

/-- A text is cut at its capitals: none in the first part, and one at the start of each other part
and nowhere else in it. -/
structure CutAtCapitals (t first : List Char) (parts : List (List Char)) : Prop where
  whole : first ++ parts.flatten = t
  first_small : ∀ c ∈ first, c.isUpper = false
  parts_lead : ∀ part ∈ parts, ∃ c rest, part = c :: rest ∧ c.isUpper = true ∧
    ∀ x ∈ rest, x.isUpper = false

theorem CutAtCapitals.cons {c : Char} (hc : c.isUpper = false) {t first : List Char}
    {parts : List (List Char)} (h : CutAtCapitals t first parts) :
    CutAtCapitals (c :: t) (c :: first) parts where
  whole := by rw [List.cons_append, h.whole]
  first_small := List.forall_mem_cons.2 ⟨hc, h.first_small⟩
  parts_lead := h.parts_lead

theorem CutAtCapitals.cut {c : Char} (hc : c.isUpper = true) {t first : List Char}
    {parts : List (List Char)} (h : CutAtCapitals t first parts) :
    CutAtCapitals (c :: t) [] ((c :: first) :: parts) where
  whole := by simp [h.whole]
  first_small := by simp
  parts_lead := List.forall_mem_cons.2 ⟨⟨c, first, rfl, hc, h.first_small⟩, h.parts_lead⟩

/-- Where each capital has a small letter after it, the words are cut at the capitals. The scan is at
the start of a word, or it has met a small letter since. -/
theorem exists_humps {mode : ScanMode} (held : List Char) {c : Char} {r : List Char}
    (hlead : capitalsLead (c :: r) = true)
    (hplace : mode = .boundary ∧ c.isAlpha = true ∨ c.isUpper = false ∧ mode.after c = .lower) :
    ∃ s ws, humps mode held (c :: r) = (held.reverse ++ c :: s) :: ws ∧ CutAtCapitals r s ws := by
  induction r generalizing mode held c with
  | nil => exact ⟨[], [], by simp [humps], rfl, by simp, by simp⟩
  | cons n r ih =>
    simp only [capitalsLead, Bool.and_eq_true, Bool.or_eq_true, Bool.not_eq_true'] at hlead
    obtain ⟨⟨hc, hnext⟩, hlead⟩ := hlead
    have hn := isAlphanum_of_capitalsLead hlead n List.mem_cons_self
    have hcupper := isUppercase_of_isAlphanum hc
    have hnupper := isUppercase_of_isAlphanum hn
    -- No word ends before `n`.
    have hgo (hstep : humps mode held (c :: n :: r) = humps (mode.after c) (c :: held) (n :: r))
        (hnsmall : n.isUpper = false) (hafter : (mode.after c).after n = .lower) :
        ∃ s ws, humps mode held (c :: n :: r) = (held.reverse ++ c :: s) :: ws ∧
          CutAtCapitals (n :: r) s ws := by
      obtain ⟨s, ws, hwords, hcut⟩ := ih (c :: held) hlead (.inr ⟨hnsmall, hafter⟩)
      refine ⟨n :: s, ws, ?_, hcut.cons hnsmall⟩
      rw [hstep, hwords]
      simp
    cases hcapital : c.isUpper with
    | true =>
      have hnlower : n.isLower = true := by simpa [hcapital] using hnext
      obtain ⟨rfl, -⟩ := hplace.resolve_right (by simp [hcapital])
      have hclower : isLowercase c = false := by
        rw [isLowercase_of_isAlphanum hc, Bool.eq_false_iff]
        intro hlower
        rw [isUpper_of_isLower hlower] at hcapital
        cases hcapital
      have hmode : ScanMode.boundary.after c = .upper := by
        simp [ScanMode.after, hclower, hcupper, hcapital]
      refine hgo ?_ (isUpper_of_isLower hnlower) ?_
      · simp [humps, hmode]
      · simp [ScanMode.after, isLowercase_of_isAlphanum hn, hnlower]
    | false =>
      have hmode : mode.after c = .lower := by
        rcases hplace with ⟨-, halpha⟩ | ⟨-, hmode⟩
        · have hclower : c.isLower = true := by simpa [isAlpha_eq, hcapital] using halpha
          simp [ScanMode.after, isLowercase_of_isAlphanum hc, hclower]
        · exact hmode
      cases hncapital : n.isUpper with
      | true =>
        obtain ⟨s, ws, hwords, hcut⟩ := ih [] hlead
          (.inl ⟨rfl, by rw [isAlpha_eq, hncapital, Bool.true_or]⟩)
        refine ⟨[], (n :: s) :: ws, ?_, hcut.cut hncapital⟩
        rw [humps, if_pos ⟨hmode, by rw [hnupper, hncapital]⟩, hwords]
        simp
      | false =>
        refine hgo ?_ hncapital ?_
        · simp [humps, hnupper, hncapital, hcupper, hcapital]
        · rw [hmode]
          simp [ScanMode.after, hnupper, hncapital]

/-! ## Back to camel case -/

theorem shoutWord_eq_map {w : List Char} (h : ∀ c ∈ w, c.isAlphanum = true) :
    shoutWord w = w.map Char.toUpper := by
  rw [List.map_eq_flatMap]
  exact List.flatMap_congr fun c hc => capital_of_isAlphanum (h c hc)

theorem smallText_eq_map {w : List Char} (h : ∀ c ∈ w, c.isAlphanum = true) :
    smallText w = w.map Char.toLower := by
  have hafter (before : List Char) : smallAfter before w = w.map Char.toLower := by
    induction w generalizing before with
    | nil => rfl
    | cons c w ih =>
      obtain ⟨hc, hw⟩ := List.forall_mem_cons.1 h
      have hsigma : c ≠ 'Σ' := by
        rintro rfl
        cases hc
      simp [smallAfter, hsigma, small_of_isAlphanum hc, ih hw]
  exact hafter []

/-- A word in capitals has its letters back in small, but for the first. -/
theorem wordTail_shoutWord {c : Char} {s : List Char} (h : ∀ x ∈ c :: s, x.isAlphanum = true)
    (hs : ∀ x ∈ s, x.isUpper = false) : wordTail (shoutWord (c :: s)) = s := by
  rw [shoutWord_eq_map h]
  have hcaps : allCaps ((c :: s).map Char.toUpper) = true := by
    rw [allCaps, List.all_map, List.all_eq_true]
    intro x hx
    have halnum := isAlphanum_toUpper (h x hx)
    rw [Function.comp_apply, isUppercase_of_isAlphanum halnum, isAlphabetic,
      if_pos (isAscii_of_isAlphanum halnum), isAlpha_eq, isLower_toUpper (h x hx), Bool.or_false,
      Bool.or_not_self]
  have htail : ∀ x ∈ s.map Char.toUpper, x.isAlphanum = true := by
    simpa using fun x hx => isAlphanum_toUpper (h x (List.mem_cons_of_mem c hx))
  rw [wordTail, if_pos hcaps, List.map_cons, List.tail_cons, smallText_eq_map htail, List.map_map]
  calc s.map (Char.toLower ∘ Char.toUpper) = s.map id := List.map_congr_left fun x hx =>
        toLower_toUpper (h x (List.mem_cons_of_mem c hx)) (hs x hx)
    _ = s := List.map_id s

theorem titleWord_shoutWord {c : Char} {s : List Char} (h : ∀ x ∈ c :: s, x.isAlphanum = true)
    (hc : c.isUpper = true) (hs : ∀ x ∈ s, x.isUpper = false) :
    titleWord (shoutWord (c :: s)) = c :: s := by
  have htail := wordTail_shoutWord h hs
  rw [shoutWord_eq_map h, List.map_cons, toUpper_of_isUpper hc] at htail ⊢
  rw [titleWord, htail, capital_of_isAlphanum (h c List.mem_cons_self), toUpper_of_isUpper hc,
    List.singleton_append]

theorem camelWord_shoutWord {c : Char} {s : List Char} (h : ∀ x ∈ c :: s, x.isAlphanum = true)
    (hs : ∀ x ∈ c :: s, x.isUpper = false) : camelWord (shoutWord (c :: s)) = c :: s := by
  have htail := wordTail_shoutWord h fun x hx => hs x (List.mem_cons_of_mem c hx)
  rw [shoutWord_eq_map h, List.map_cons] at htail ⊢
  have hc := h c List.mem_cons_self
  rw [camelWord, htail, small_of_isAlphanum (isAlphanum_toUpper hc),
    toLower_toUpper hc (hs c List.mem_cons_self), List.singleton_append]

/-- Camel case gives a humped name back from its words in capitals. -/
theorem camelCase_shoutCase {name : List Char} (h : isHumped name = true) :
    camelCase (shoutCase name) = name := by
  cases name with
  | nil => cases h
  | cons c r =>
    obtain ⟨hc, hlead⟩ : c.isLower = true ∧ capitalsLead (c :: r) = true := by
      simpa [isHumped] using h
    have halnum := isAlphanum_of_capitalsLead hlead
    obtain ⟨s, ws, hwords, hcut⟩ := exists_humps [] hlead
      (.inl ⟨rfl, isAlpha_of_isLower hc⟩)
    have hrun : words (c :: r) = (c :: s) :: ws := by
      have hnot : ∀ x ∈ c :: r, (!isAlphanumeric x) = false := by
        intro x hx
        rw [isAlphanumeric, isAlphabetic, isNumeric, if_pos (isAscii_of_isAlphanum (halnum x hx)),
          if_pos (isAscii_of_isAlphanum (halnum x hx)), ← Char.isAlphanum, halnum x hx, Bool.not_true]
      rw [words, split_of_forall_not hnot, List.flatMap_singleton, hwords]
      rfl
    rw [← hcut.whole] at halnum
    have hfirst : camelWord (shoutWord (c :: s)) = c :: s := by
      refine camelWord_shoutWord (fun x hx => halnum x ?_)
        (List.forall_mem_cons.2 ⟨isUpper_of_isLower hc, hcut.first_small⟩)
      exact List.mem_append_left ws.flatten hx
    have hparts : ws.flatMap (fun w => titleWord (shoutWord w)) = ws.flatMap id := by
      refine List.flatMap_congr fun w hw => ?_
      obtain ⟨x, rest, rfl, hx, hrest⟩ := hcut.parts_lead w hw
      refine titleWord_shoutWord (fun y hy => halnum y ?_) hx hrest
      exact List.mem_append_right (c :: s) (List.mem_flatten_of_mem hw hy)
    rw [camelCase, underscoreWords_shoutCase, shoutCase,
      leadingUnderscores_intercalate (shoutWords_plain _), hrun]
    simp only [List.map_cons, List.flatMap_map]
    rw [hfirst, hparts, List.flatMap_id, List.nil_append, List.cons_append, hcut.whole]

example : isHumped "userName2".toList = true ∧ isHumped "userID".toList = false ∧
    isHumped "_user".toList = false := by decide +kernel

end StubForge.Text
