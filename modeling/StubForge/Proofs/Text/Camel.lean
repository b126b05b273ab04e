import StubForge.Proofs.Text.Casing

/-! What names look like in camel case and in title case: underscores only lead, and names that start
with a letter stay apart when those in camel case are put in title case. Once such a name is in camel
case, its title case is still that of the name it was. -/
namespace StubForge.Text

/-! ## Letters of ASCII -/

theorem isAscii_of_isAlphanum {c : Char} (h : c.isAlphanum = true) : isAscii c = true := by
  have hletter : c.isAlphanum = (c.isUpper || c.isLower || c.isDigit) := rfl
  have hdigit : c.isDigit = (decide ('0'.val ≤ c.val) && decide (c.val ≤ '9'.val)) := rfl
  simp only [hletter, hdigit, Bool.or_eq_true, isUpper_iff, isLower_iff, Bool.and_eq_true,
    decide_eq_true_eq, UInt32.le_iff_toNat_le] at h
  rw [isAscii, decide_eq_true_eq]
  have hcode : c.toNat = c.val.toNat := rfl
  have hnine : '9'.val.toNat = 57 := rfl
  omega

theorem isAlphanum_of_isAlpha {c : Char} (h : c.isAlpha = true) : c.isAlphanum = true := by
  rw [Char.isAlphanum, h, Bool.true_or]

theorem isAlpha_of_isLower {c : Char} (h : c.isLower = true) : c.isAlpha = true := by
  rw [isAlpha_eq, h, Bool.or_true]

theorem isLower_toLower {c : Char} (h : c.isAlpha = true) : c.toLower.isLower = true :=
  ((ascii_casing c (isAscii_of_isAlphanum (isAlphanum_of_isAlpha h))).2.1 h).2.1

theorem toUpper_toLower {c : Char} (h : c.isAlpha = true) : c.toLower.toUpper = c.toUpper :=
  ((ascii_casing c (isAscii_of_isAlphanum (isAlphanum_of_isAlpha h))).2.1 h).2.2

theorem toLower_of_isLower {c : Char} (h : c.isLower = true) : c.toLower = c := by
  obtain ⟨-, -, -, hlower, -⟩ :=
    ascii_casing c (isAscii_of_isAlphanum (isAlphanum_of_isAlpha (isAlpha_of_isLower h)))
  exact hlower h

theorem toLower_toUpper {c : Char} (hc : c.isAlphanum = true) (h : c.isUpper = false) :
    c.toUpper.toLower = c := by
  obtain ⟨-, -, -, -, hback⟩ := ascii_casing c (isAscii_of_isAlphanum hc)
  exact hback h

theorem ne_underscore_of_isLower {c : Char} (h : c.isLower = true) : c ≠ '_' := by
  rintro rfl
  cases h

theorem capital_of_isAlphanum {c : Char} (h : c.isAlphanum = true) : capital c = [c.toUpper] := by
  rw [capital, if_pos (isAscii_of_isAlphanum h)]

theorem small_of_isAlphanum {c : Char} (h : c.isAlphanum = true) : small c = [c.toLower] := by
  rw [small, if_pos (isAscii_of_isAlphanum h)]

/-! ## Words -/

theorem underscore_notMem_of_mem_underscoreWords {name w : List Char}
    (h : w ∈ underscoreWords name) : '_' ∉ w := by
  intro hmem
  have hnot := (mem_of_mem_split (List.mem_filter.1 h).1 hmem).2
  simp at hnot

theorem eq_of_mem_leadingUnderscores {name : List Char} {c : Char}
    (h : c ∈ leadingUnderscores name) : c = '_' := by
  simpa using List.mem_takeWhile_imp h

theorem leadingUnderscores_append {lead : List Char} (hlead : ∀ c ∈ lead, c = '_') {c : Char}
    (hc : c ≠ '_') (rest : List Char) : leadingUnderscores (lead ++ c :: rest) = lead := by
  induction lead with
  | nil => simp [leadingUnderscores, hc]
  | cons l lead ih =>
    obtain ⟨rfl, hrest⟩ := List.forall_mem_cons.1 hlead
    simpa [leadingUnderscores] using ih hrest

theorem fields_dropWhile (p : Char → Bool) (t : List Char) :
    fields p (t.dropWhile p) = fields p t := by
  induction t with
  | nil => rfl
  | cons c t ih =>
    cases hc : p c with
    | true => simpa [fields, hc] using ih
    | false => rw [List.dropWhile_cons_of_neg (by simp [hc])]

/-- The first word starts with what comes after the leading underscores. -/
theorem exists_underscoreWords {name : List Char} {c : Char} {rest : List Char}
    (h : name.dropWhile (· == '_') = c :: rest) :
    ∃ w ws, underscoreWords name = (c :: w) :: ws := by
  have hc : (c == '_') = false := by
    have hhead := List.head?_dropWhile_not (· == '_') name
    rw [h] at hhead
    simpa using hhead
  obtain ⟨w, ws, -, hsplit⟩ := split_cons_of_neg (p := (· == '_')) hc rest
  refine ⟨w, ws.filter (· ≠ []), ?_⟩
  rw [underscoreWords, ← fields_dropWhile, h, fields, hsplit]
  simp

/-! ## Camel and title case -/

theorem exists_camelCase (name : List Char) :
    ∃ body, camelCase name = leadingUnderscores name ++ body ∧ '_' ∉ body := by
  refine ⟨_, rfl, fun hmem => ?_⟩
  split at hmem
  · cases hmem
  · rename_i w ws hwords
    rw [List.mem_append, List.mem_flatMap] at hmem
    have hword {v : List Char} (hv : v ∈ w :: ws) : '_' ∉ v :=
      underscore_notMem_of_mem_underscoreWords (hwords ▸ hv)
    rcases hmem with hmem | ⟨v, hv, hmem⟩
    · exact hword List.mem_cons_self (sign_mem_camelWord (by decide) hmem)
    · exact hword (List.mem_cons_of_mem w hv) (sign_mem_titleWord (by decide) hmem)

/-- In camel case a name has underscores at its start or nowhere. -/
theorem underscore_notMem_camelCase {name rest : List Char} {c : Char}
    (h : camelCase name = c :: rest) (hc : c ≠ '_') : '_' ∉ camelCase name := by
  obtain ⟨body, hbody, hnot⟩ := exists_camelCase name
  cases hlead : leadingUnderscores name with
  | nil => rwa [hbody, hlead]
  | cons l ls =>
    rw [hbody, hlead] at h
    obtain ⟨rfl, -⟩ := List.cons.inj h
    exact absurd (eq_of_mem_leadingUnderscores (hlead ▸ List.mem_cons_self)) hc

/-- Underscores, then a small letter, and no underscore after it: what camel case makes of a name
that has a letter first. -/
inductive IsCamel : List Char → Prop
  | intro (lead : List Char) (c : Char) (rest : List Char) (hlead : ∀ l ∈ lead, l = '_')
      (hc : c.isLower = true) (hrest : '_' ∉ rest) : IsCamel (lead ++ c :: rest)

/-- Of a name with a letter first, camel case and title case have all in common but this letter. -/
theorem exists_casings {name : List Char}
    (h : (name.dropWhile (· == '_')).head?.any Char.isAlpha = true) :
    ∃ (lead : List Char) (c : Char) (rest : List Char), (∀ l ∈ lead, l = '_') ∧
      c.isAlpha = true ∧ '_' ∉ rest ∧
      camelCase name = lead ++ c.toLower :: rest ∧ titleCase name = lead ++ c.toUpper :: rest := by
  cases hname : name.dropWhile (· == '_') with
  | nil => simp [hname] at h
  | cons c r =>
    have hc : c.isAlpha = true := by simpa [hname] using h
    have hletter := isAlphanum_of_isAlpha hc
    obtain ⟨w, ws, hwords⟩ := exists_underscoreWords hname
    have hcamel : camelCase name = leadingUnderscores name ++
        c.toLower :: (wordTail (c :: w) ++ ws.flatMap titleWord) := by
      rw [camelCase, hwords]
      simp [camelWord, small_of_isAlphanum hletter]
    have htitle : titleCase name = leadingUnderscores name ++
        c.toUpper :: (wordTail (c :: w) ++ ws.flatMap titleWord) := by
      rw [titleCase, hwords]
      simp [titleWord, capital_of_isAlphanum hletter]
    obtain ⟨body, hbody, hnot⟩ := exists_camelCase name
    rw [hcamel, List.append_cancel_left_eq] at hbody
    rw [← hbody] at hnot
    exact ⟨_, c, _, fun l hl => eq_of_mem_leadingUnderscores hl, hc,
      fun hmem => hnot (List.mem_cons_of_mem _ hmem), hcamel, htitle⟩

theorem isCamel_camelCase {name : List Char}
    (h : (name.dropWhile (· == '_')).head?.any Char.isAlpha = true) : IsCamel (camelCase name) := by
  obtain ⟨lead, c, rest, hlead, hc, hrest, hcamel, -⟩ := exists_casings h
  rw [hcamel]
  exact .intro lead _ rest hlead (isLower_toLower hc) hrest

section
variable {lead : List Char} (hlead : ∀ l ∈ lead, l = '_') {c : Char} (hc : c.isLower = true)
  {rest : List Char} (hrest : '_' ∉ rest)
include hlead hc hrest

/-- Behind its first underscores the name is a single word. -/
theorem underscoreWords_append : underscoreWords (lead ++ c :: rest) = [c :: rest] := by
  have hne := ne_underscore_of_isLower hc
  have hdrop : (lead ++ c :: rest).dropWhile (· == '_') = c :: rest := by
    rw [List.dropWhile_append_of_pos (by simpa using hlead), List.dropWhile_cons_of_neg (by simpa)]
  have hnone : ∀ x ∈ c :: rest, (x == '_') = false := by
    intro x hx
    rw [beq_eq_false_iff_ne]
    rintro rfl
    exact (List.mem_cons.1 hx).elim (fun h => hne h.symm) hrest
  rw [underscoreWords, ← fields_dropWhile, hdrop, fields, split_of_forall_not hnone]
  simp

omit hlead hrest in
theorem wordTail_of_isLower (rest : List Char) : wordTail (c :: rest) = rest := by
  have hcaps : allCaps (c :: rest) = false := by
    have halpha := isAlpha_of_isLower hc
    simp [allCaps, isUppercase, isAlphabetic, isAscii_of_isAlphanum (isAlphanum_of_isAlpha halpha),
      isUpper_of_isLower hc, halpha]
  rw [wordTail, hcaps, if_neg Bool.false_ne_true, List.tail_cons]

/-- Title case changes the first letter and nothing else. -/
theorem titleCase_append : titleCase (lead ++ c :: rest) = lead ++ c.toUpper :: rest := by
  rw [titleCase, leadingUnderscores_append hlead (ne_underscore_of_isLower hc),
    underscoreWords_append hlead hc hrest]
  simp [titleWord, wordTail_of_isLower hc,
    capital_of_isAlphanum (isAlphanum_of_isAlpha (isAlpha_of_isLower hc))]

/-- Camel case changes nothing. -/
theorem camelCase_append : camelCase (lead ++ c :: rest) = lead ++ c :: rest := by
  rw [camelCase, leadingUnderscores_append hlead (ne_underscore_of_isLower hc),
    underscoreWords_append hlead hc hrest]
  simp [camelWord, wordTail_of_isLower hc, toLower_of_isLower hc,
    small_of_isAlphanum (isAlphanum_of_isAlpha (isAlpha_of_isLower hc))]

end

/-- A name that starts with a letter is in camel case once and for all. -/
theorem camelCase_camelCase {name : List Char}
    (h : (name.dropWhile (· == '_')).head?.any Char.isAlpha = true) :
    camelCase (camelCase name) = camelCase name := by
  obtain ⟨lead, c, rest, hlead, hc, hrest, hcamel, -⟩ := exists_casings h
  rw [hcamel, camelCase_append hlead (isLower_toLower hc) hrest]

/-- Camel case in between does not show in title case. -/
theorem titleCase_camelCase {name : List Char}
    (h : (name.dropWhile (· == '_')).head?.any Char.isAlpha = true) :
    titleCase (camelCase name) = titleCase name := by
  obtain ⟨lead, c, rest, hlead, hc, hrest, hcamel, htitle⟩ := exists_casings h
  rw [hcamel, titleCase_append hlead (isLower_toLower hc) hrest, toUpper_toLower hc, htitle]

example : titleCase "1_A".toList = "1A".toList ∧ titleCase (camelCase "1_A".toList) = "1a".toList :=
  by decide +kernel

/-- Names in camel case that start with a letter stay apart in title case. -/
theorem IsCamel.titleCase_inj {a b : List Char} (ha : IsCamel a) (hb : IsCamel b)
    (h : titleCase a = titleCase b) : a = b := by
  obtain ⟨lead, c, rest, hlead, hc, hrest⟩ := ha
  obtain ⟨lead', c', rest', hlead', hc', hrest'⟩ := hb
  rw [titleCase_append hlead hc hrest, titleCase_append hlead' hc' hrest'] at h
  have hback {x : Char} (hx : x.isLower = true) : x.toUpper.toLower = x :=
    toLower_toUpper (isAlphanum_of_isAlpha (isAlpha_of_isLower hx)) (isUpper_of_isLower hx)
  have hne {x : Char} (hx : x.isLower = true) : x.toUpper ≠ '_' := by
    intro heq
    have hline := hback hx
    rw [heq] at hline
    rw [← hline] at hx
    cases hx
  have hleads := congrArg leadingUnderscores h
  rw [leadingUnderscores_append hlead (hne hc), leadingUnderscores_append hlead' (hne hc')] at hleads
  rw [hleads, List.append_cancel_left_eq, List.cons.injEq] at h
  rw [hleads, ← hback hc, ← hback hc', h.1, h.2]

end StubForge.Text
