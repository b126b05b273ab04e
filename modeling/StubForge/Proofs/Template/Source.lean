import Mathlib.Data.List.TakeWhile
import Mathlib.Data.List.Infix
import StubForge.Proofs.Outcome
import StubForge.Template.Parser

/-! The grammar of a template's source: a row of texts and tags, and what stands between the braces
of a tag. A source has tokens exactly if it is written in this grammar, one for each of its parts. -/
namespace StubForge.Template
open Text (isBlank)

/-! ## Tags -/

/-- A text without white space at its ends. -/
structure Bare (t : List Char) : Prop where
  head : ∀ c ∈ t.head?, isBlank c = false
  last : ∀ c ∈ t.getLast?, isBlank c = false

/-- What stands between the braces of a tag: its sigil, if it has one, and its name, with any white
space around them. A comment has no name, whatever follows its sigil. -/
inductive TagText : List Char → TagKind → String → Prop
  | value {lead name trail : List Char} (hlead : ∀ c ∈ lead, isBlank c = true)
      (htrail : ∀ c ∈ trail, isBlank c = true) (hname : Bare name) (hne : name ≠ [])
      (hsigil : ∀ c ∈ name.head?, sigil? c = none) :
      TagText (lead ++ name ++ trail) .value (String.ofList name)
  | sigil {lead middle name trail : List Char} {c : Char} {kind : TagKind}
      (hsigil : sigil? c = some kind) (hkind : kind ≠ .comment)
      (hlead : ∀ c ∈ lead, isBlank c = true) (hmiddle : ∀ c ∈ middle, isBlank c = true)
      (htrail : ∀ c ∈ trail, isBlank c = true) (hname : Bare name) (hne : name ≠ []) :
      TagText (lead ++ c :: (middle ++ name ++ trail)) kind (String.ofList name)
  | comment {lead rest : List Char} (hlead : ∀ c ∈ lead, isBlank c = true) :
      TagText (lead ++ '!' :: rest) .comment ""

theorem trimStart_append {lead : List Char} (h : ∀ c ∈ lead, isBlank c = true) (t : List Char) :
    trimStart (lead ++ t) = trimStart t := List.dropWhile_append_of_pos h

theorem trimStart_of_head {t : List Char} (h : ∀ c ∈ t.head?, isBlank c = false) :
    trimStart t = t := by
  cases t with
  | nil => rfl
  | cons c r =>
    have hc : isBlank c = false := h c rfl
    rw [trimStart, List.dropWhile_cons_of_neg (by simp [hc])]

theorem exists_of_trimStart (t : List Char) :
    ∃ lead, t = lead ++ trimStart t ∧ (∀ c ∈ lead, isBlank c = true) ∧
      ∀ c ∈ (trimStart t).head?, isBlank c = false := by
  refine ⟨t.takeWhile isBlank, List.takeWhile_append_dropWhile.symm,
    fun c hc => List.mem_takeWhile_imp hc, fun c hc => ?_⟩
  have hhead := List.head?_dropWhile_not isBlank t
  rw [trimStart] at hc
  rwa [Option.mem_def.1 hc] at hhead

theorem trim_of_bare {lead t trail : List Char} (hlead : ∀ c ∈ lead, isBlank c = true)
    (htrail : ∀ c ∈ trail, isBlank c = true) (ht : Bare t) (hne : t ≠ []) :
    trim (lead ++ t ++ trail) = t := by
  have hhead : ∀ c ∈ (t ++ trail).head?, isBlank c = false := by
    rw [List.head?_append_of_ne_nil t hne]
    exact ht.head
  have hlast : ∀ c ∈ t.reverse.head?, isBlank c = false := by
    rw [List.head?_reverse]
    exact ht.last
  have hback : ∀ c ∈ trail.reverse, isBlank c = true := fun c hc => htrail c (List.mem_reverse.1 hc)
  rw [trim, List.append_assoc, trimStart_append hlead, trimStart_of_head hhead,
    List.reverse_append, trimStart_append hback, trimStart_of_head hlast, List.reverse_reverse]

theorem exists_of_trim (t : List Char) :
    ∃ lead trail, t = lead ++ trim t ++ trail ∧ (∀ c ∈ lead, isBlank c = true) ∧
      (∀ c ∈ trail, isBlank c = true) ∧ Bare (trim t) := by
  obtain ⟨lead, hlead, hblank, hhead⟩ := exists_of_trimStart t
  obtain ⟨back, hback, htrail, hlast⟩ := exists_of_trimStart (trimStart t).reverse
  have hsplit : trimStart t = trim t ++ back.reverse := by
    rw [trim, ← List.reverse_append, ← hback, List.reverse_reverse]
  refine ⟨lead, back.reverse, ?_, hblank, fun c hc => htrail c (List.mem_reverse.1 hc), ?_, ?_⟩
  · rw [List.append_assoc, ← hsplit]
    exact hlead
  · intro c hc
    refine hhead c ?_
    rw [hsplit, List.head?_append, Option.mem_def.1 hc]
    rfl
  · rw [trim, List.getLast?_reverse]
    exact hlast

theorem isBlank_of_sigil? {c : Char} {kind : TagKind} (h : sigil? c = some kind) :
    isBlank c = false := by
  unfold sigil? at h
  split at h <;> first | decide | cases h

theorem eq_of_sigil?_comment {c : Char} (h : sigil? c = some .comment) : c = '!' := by
  unfold sigil? at h
  split at h <;> first | rfl | cases h

/-- A sigil and what follows it are bare if the end of what follows is. -/
theorem Bare.cons_sigil {c : Char} {kind : TagKind} (hc : sigil? c = some kind) {r : List Char}
    (hr : ∀ x ∈ r.getLast?, isBlank x = false) : Bare (c :: r) := by
  refine ⟨fun x hx => ?_, fun x hx => ?_⟩
  · cases hx
    exact isBlank_of_sigil? hc
  · cases r with
    | nil =>
      cases hx
      exact isBlank_of_sigil? hc
    | cons d r => exact hr x hx

theorem readTag_sigil {content r : List Char} {c : Char} {kind : TagKind}
    (htrim : trim content = c :: r) (hsigil : sigil? c = some kind) (hkind : kind ≠ .comment) :
    readTag content = if trim r = [] then .error .namelessTag
      else .ok (.tag kind (String.ofList (trim r)) []) := by
  rw [readTag, htrim]
  cases kind with
  | comment => exact absurd rfl hkind
  | _ => simp only [hsigil]

/-- What the reader of tags accepts is written as a tag. -/
theorem exists_of_readTag {content : List Char} {t : Token} (h : readTag content = .ok t) :
    ∃ kind name, t = .tag kind name [] ∧ TagText content kind name := by
  obtain ⟨lead, trail, hcontent, hlead, htrail, hbare⟩ := exists_of_trim content
  cases htrim : trim content with
  | nil => simp [readTag, htrim] at h
  | cons c r =>
    rw [htrim] at hcontent hbare
    obtain ⟨middle, back, hr, hmiddle, hback, hname⟩ := exists_of_trim r
    have hspelled : content = lead ++ c :: (middle ++ trim r ++ (back ++ trail)) := by
      rw [hcontent, List.append_assoc, List.cons_append, ← List.append_assoc _ back, ← hr]
    cases hsigil : sigil? c with
    | none =>
      simp only [readTag, htrim, hsigil] at h
      cases h
      refine ⟨.value, _, rfl, ?_⟩
      rw [hcontent]
      refine .value hlead htrail hbare (List.cons_ne_nil c r) fun x hx => ?_
      cases hx
      exact hsigil
    | some kind =>
      by_cases hkind : kind = .comment
      · subst hkind
        simp only [readTag, htrim, hsigil] at h
        cases h
        refine ⟨.comment, "", rfl, ?_⟩
        rw [hspelled, eq_of_sigil?_comment hsigil]
        exact .comment hlead
      · rw [readTag_sigil htrim hsigil hkind] at h
        split at h
        · cases h
        · rename_i hne
          cases h
          refine ⟨kind, _, rfl, ?_⟩
          have hend : ∀ x ∈ back ++ trail, isBlank x = true := fun x hx =>
            (List.mem_append.1 hx).elim (hback x) (htrail x)
          rw [hspelled]
          exact .sigil hsigil hkind hlead hmiddle hend hname hne

/-- What is written as a tag is read as the tag. -/
theorem TagText.readTag {content : List Char} {kind : TagKind} {name : String}
    (h : TagText content kind name) : readTag content = .ok (.tag kind name []) := by
  cases h with
  | @value lead name trail hlead htrail hname hne hsigil =>
    rw [Template.readTag, trim_of_bare hlead htrail hname hne]
    cases name with
    | nil => exact absurd rfl hne
    | cons c r =>
      have hc : sigil? c = none := hsigil c rfl
      simp only [hc]
  | @sigil lead middle name trail c kind hsigil hkind hlead hmiddle htrail hname hne =>
    have hbare : Bare (c :: (middle ++ name)) := by
      refine .cons_sigil hsigil ?_
      rw [List.getLast?_append_of_ne_nil middle hne]
      exact hname.last
    have htrim : trim (lead ++ c :: (middle ++ name ++ trail)) = c :: (middle ++ name) := by
      have h := trim_of_bare hlead htrail hbare (List.cons_ne_nil c _)
      rwa [List.append_assoc, List.cons_append] at h
    have hinner : trim (middle ++ name) = name := by
      have hnone : ∀ x ∈ ([] : List Char), isBlank x = true := by simp
      have h := trim_of_bare hmiddle hnone hname hne
      rwa [List.append_nil] at h
    rw [readTag_sigil htrim hsigil hkind, hinner, if_neg hne]
  | @comment lead rest hlead =>
    obtain ⟨back, hback, hblank, hlast⟩ := exists_of_trimStart rest.reverse
    have hrest : rest = (trimStart rest.reverse).reverse ++ back.reverse := by
      rw [← List.reverse_append, ← hback, List.reverse_reverse]
    have hsigil : sigil? '!' = some .comment := rfl
    have hbare : Bare ('!' :: (trimStart rest.reverse).reverse) := by
      refine .cons_sigil hsigil ?_
      rw [List.getLast?_reverse]
      exact hlast
    have h := trim_of_bare hlead (fun c hc => hblank c (List.mem_reverse.1 hc)) hbare
      (List.cons_ne_nil '!' _)
    rw [List.append_assoc, List.cons_append, ← hrest] at h
    rw [Template.readTag, h]
    rfl

/-! ## Parts of a source -/

/-- A text, or a tag with what stands between its braces. -/
inductive Part
  | text (chars : List Char)
  | tag (content : List Char)

def Part.spell : Part → List Char
  | .text chars => chars
  | .tag content => '{' :: '{' :: (content ++ ['}', '}'])

/-- The source that consists of the parts. -/
def spell (parts : List Part) : List Char := parts.flatMap Part.spell

/-- A source from left to right: a pair of opening braces outside a tag begins one, and the next
pair of closing braces ends it. There are no parts if one of them is missing. -/
inductive Cut : List Char → List Part → Prop
  | nil : Cut [] []
  | text {t : List Char} (hne : t ≠ []) (ht : ¬ ['{', '{'] <:+: t) : Cut t [.text t]
  | tag {c r : List Char} {parts : List Part} (hc : ¬ ['}', '}'] <:+: c ++ ['}'])
      (hr : Cut r parts) : Cut ('{' :: '{' :: (c ++ '}' :: '}' :: r)) (.tag c :: parts)
  | textTag {t c r : List Char} {parts : List Part} (hne : t ≠ [])
      (ht : ¬ ['{', '{'] <:+: t ++ ['{']) (hc : ¬ ['}', '}'] <:+: c ++ ['}'])
      (hr : Cut r parts) :
      Cut (t ++ '{' :: '{' :: (c ++ '}' :: '}' :: r)) (.text t :: .tag c :: parts)

/-- A text is a token as it is, and a tag if it is written as one. -/
inductive Part.Denotes : Part → Token → Prop
  | text (chars : List Char) : Denotes (.text chars) (.text chars)
  | tag {content : List Char} {kind : TagKind} {name : String} (h : TagText content kind name) :
      Denotes (.tag content) (.tag kind name [])

theorem Part.Denotes.readTag_eq {content : List Char} {t : Token}
    (h : Denotes (.tag content) t) : readTag content = .ok t := by
  cases h with
  | tag htext => exact htext.readTag

theorem Cut.spell {source : List Char} {parts : List Part} (h : Cut source parts) :
    source = Template.spell parts := by
  induction h with
  | nil => rfl
  | text hne ht => simp [Template.spell, Part.spell]
  | tag hc hr ih => simp [Template.spell, Part.spell, ih]
  | textTag hne ht hc hr ih => simp [Template.spell, Part.spell, ih]

/-! ## Tokens of a source -/

/-- The token of a text, if there is any text. -/
def textTokens (t : List Char) : List Token := if t = [] then [] else [.text t]

/-- A text has no pair of a character, or it is cut at the first. -/
theorem exists_of_pair (c : Char) (s : List Char) :
    ¬ [c, c] <:+: s ∨ ∃ t r, s = t ++ c :: c :: r ∧ ¬ [c, c] <:+: t ++ [c] := by
  induction s with
  | nil => exact .inl (by simp)
  | cons a s ih =>
    by_cases hhere : [c, c] <+: a :: s
    · obtain ⟨r, hr⟩ := hhere
      refine .inr ⟨[], r, hr.symm, fun h => ?_⟩
      exact absurd h.length_le (by simp)
    · rcases ih with hfree | ⟨t, r, rfl, hfree⟩
      · exact .inl fun h => (List.infix_cons_iff.1 h).elim hhere hfree
      · refine .inr ⟨a :: t, r, rfl, fun h => ?_⟩
        rcases List.infix_cons_iff.1 h with hstart | hlater
        · refine hhere (hstart.trans ⟨c :: r, ?_⟩)
          simp
        · exact hfree hlater

theorem ne_of_free {c : Char} {a : Char} {s r : List Char} (h : ¬ [c, c] <:+: a :: s)
    (hs : s = c :: r) : a ≠ c := by
  rintro rfl
  exact h ⟨[], r, by rw [hs]; rfl⟩

/-- The pair may also stand right behind the text. -/
theorem ne_of_free_append {c a : Char} {t r s : List Char} (h : ¬ [c, c] <:+: a :: t ++ [c])
    (hs : t ++ c :: c :: r = c :: s) : a ≠ c := by
  refine ne_of_free h (r := (t ++ [c]).tail) ?_
  cases t with
  | nil => rfl
  | cons d t =>
    cases hs
    rfl

theorem free_tail {c a : Char} {s : List Char} (h : ¬ [c, c] <:+: a :: s) : ¬ [c, c] <:+: s :=
  fun hs => h (List.infix_cons_iff.2 (.inr hs))

theorem scanText_nil (held : List Char) : scanText held [] = .ok (textTokens held.reverse) := by
  cases held with
  | nil => rfl
  | cons c held =>
    rw [textTokens, if_neg (by simp)]
    rfl

theorem scanText_pair (held r : List Char) :
    scanText held ('{' :: '{' :: r) = (scanTag [] r).map (textTokens held.reverse ++ ·) := by
  have hwritten : scanText held ('{' :: '{' :: r) = (scanTag [] r).bind fun tokens =>
      .ok (if held = [] then tokens else .text held.reverse :: tokens) := rfl
  rw [hwritten, textTokens]
  cases held with
  | nil => cases scanTag [] r <;> rfl
  | cons c held => cases scanTag [] r <;> simp [Except.bind, Except.map]

theorem scanTag_nil (held : List Char) : scanTag held [] = .error .unclosedTag := rfl

theorem scanTag_pair (held r : List Char) :
    scanTag held ('}' :: '}' :: r) =
      (readTag held.reverse).bind fun tag => (scanText [] r).map (tag :: ·) := by
  have hwritten : scanTag held ('}' :: '}' :: r) = (readTag held.reverse).bind fun tag =>
      (scanText [] r).bind fun tokens => .ok (tag :: tokens) := rfl
  rw [hwritten]
  cases readTag held.reverse <;> cases scanText [] r <;> rfl

theorem scanText_cons {c : Char} {s : List Char} (h : ∀ r, s = '{' :: r → c ≠ '{')
    (held : List Char) : scanText held (c :: s) = scanText (c :: held) s := by
  rw [scanText]
  rintro r rfl rfl
  exact h _ rfl rfl

theorem scanTag_cons {c : Char} {s : List Char} (h : ∀ r, s = '}' :: r → c ≠ '}')
    (held : List Char) : scanTag held (c :: s) = scanTag (c :: held) s := by
  rw [scanTag]
  rintro r rfl rfl
  exact h _ rfl rfl

/-- Without a pair of opening braces all is text. -/
theorem scanText_of_free {t : List Char} (h : ¬ ['{', '{'] <:+: t) (held : List Char) :
    scanText held t = .ok (textTokens (held.reverse ++ t)) := by
  induction t generalizing held with
  | nil => rw [scanText_nil, List.append_nil]
  | cons c t ih =>
    rw [scanText_cons fun r hr => ne_of_free h hr, ih (free_tail h), List.reverse_cons,
      List.append_assoc, List.singleton_append]

/-- The first pair of opening braces ends the text before it. -/
theorem scanText_append {t : List Char} (h : ¬ ['{', '{'] <:+: t ++ ['{']) (held r : List Char) :
    scanText held (t ++ '{' :: '{' :: r) =
      (scanTag [] r).map (textTokens (held.reverse ++ t) ++ ·) := by
  induction t generalizing held with
  | nil =>
    rw [List.nil_append, scanText_pair, List.append_nil]
  | cons c t ih =>
    rw [List.cons_append, scanText_cons fun s => ne_of_free_append h, ih (free_tail h),
      List.reverse_cons, List.append_assoc, List.singleton_append]

theorem scanTag_of_free {c : List Char} (h : ¬ ['}', '}'] <:+: c) (held : List Char) :
    scanTag held c = .error .unclosedTag := by
  induction c generalizing held with
  | nil => exact scanTag_nil held
  | cons a c ih => rw [scanTag_cons fun r hr => ne_of_free h hr, ih (free_tail h)]

/-- The first pair of closing braces ends the tag. -/
theorem scanTag_append {c : List Char} (h : ¬ ['}', '}'] <:+: c ++ ['}']) (held r : List Char) :
    scanTag held (c ++ '}' :: '}' :: r) =
      (readTag (held.reverse ++ c)).bind fun tag => (scanText [] r).map (tag :: ·) := by
  induction c generalizing held with
  | nil =>
    rw [List.nil_append, scanTag_pair, List.append_nil]
  | cons a c ih =>
    rw [List.cons_append, scanTag_cons fun s => ne_of_free_append h, ih (free_tail h),
      List.reverse_cons, List.append_assoc, List.singleton_append]

theorem scanText_eq_ok_of_tag {t c r : List Char} (ht : ¬ ['{', '{'] <:+: t ++ ['{'])
    (hc : ¬ ['}', '}'] <:+: c ++ ['}']) {ts : List Token} :
    scanText [] (t ++ '{' :: '{' :: (c ++ '}' :: '}' :: r)) = .ok ts ↔
      ∃ tag rest, readTag c = .ok tag ∧ scanText [] r = .ok rest ∧
        ts = textTokens t ++ tag :: rest := by
  rw [scanText_append ht, scanTag_append hc, List.reverse_nil, List.nil_append, List.nil_append]
  cases readTag c with
  | error fault => simp [Except.bind, Except.map]
  | ok tag => cases scanText [] r <;> simp [Except.bind, Except.map, eq_comm]

/-- The tokens of a source that is cut into parts are what the parts denote. -/
theorem Cut.scanText {source : List Char} {parts : List Part} (h : Cut source parts)
    {ts : List Token} (hts : List.Forall₂ Part.Denotes parts ts) :
    scanText [] source = .ok ts := by
  induction h generalizing ts with
  | nil =>
    cases hts
    exact scanText_nil []
  | @text t hne ht =>
    obtain ⟨_, _, ⟨⟩, ⟨⟩, rfl⟩ := List.forall₂_cons_left_iff.1 hts
    rw [scanText_of_free ht, List.reverse_nil, List.nil_append, textTokens, if_neg hne]
  | @tag c r parts hc hr ih =>
    obtain ⟨_, rest, htag, hrest, rfl⟩ := List.forall₂_cons_left_iff.1 hts
    have ht : ¬ ['{', '{'] <:+: [] ++ ['{'] := by decide
    exact (scanText_eq_ok_of_tag ht hc).2 ⟨_, rest, htag.readTag_eq, ih hrest, rfl⟩
  | @textTag t c r parts hne ht hc hr ih =>
    obtain ⟨_, _, ⟨⟩, hmore, rfl⟩ := List.forall₂_cons_left_iff.1 hts
    obtain ⟨_, rest, htag, hrest, rfl⟩ := List.forall₂_cons_left_iff.1 hmore
    refine (scanText_eq_ok_of_tag ht hc).2 ⟨_, rest, htag.readTag_eq, ih hrest, ?_⟩
    rw [textTokens, if_neg hne, List.singleton_append]

/-- A source that has tokens is cut into parts which denote them. -/
theorem exists_cut_of_scanText {source : List Char} {ts : List Token}
    (h : scanText [] source = .ok ts) :
    ∃ parts, Cut source parts ∧ List.Forall₂ Part.Denotes parts ts := by
  -- what follows a tag is shorter than the source
  induction hlength : source.length using Nat.strongRecOn generalizing source ts with
  | _ n ih =>
    subst hlength
    rcases exists_of_pair '{' source with hfree | ⟨t, r, rfl, ht⟩
    · rw [scanText_of_free hfree, List.reverse_nil, List.nil_append, textTokens] at h
      split at h
      · rename_i hnil
        cases h
        exact ⟨[], hnil ▸ .nil, .nil⟩
      · rename_i hne
        cases h
        exact ⟨[.text source], .text hne hfree, .cons (.text source) .nil⟩
    rcases exists_of_pair '}' r with hfree | ⟨c, r, rfl, hc⟩
    · rw [scanText_append ht, scanTag_of_free hfree] at h
      cases h
    obtain ⟨tag, rest, htag, hrest, rfl⟩ := (scanText_eq_ok_of_tag ht hc).1 h
    obtain ⟨kind, name, rfl, htext⟩ := exists_of_readTag htag
    have hshorter : r.length < (t ++ '{' :: '{' :: (c ++ '}' :: '}' :: r)).length := by
      simp only [List.length_append, List.length_cons]
      omega
    obtain ⟨parts, hcut, hdenotes⟩ := ih r.length hshorter hrest rfl
    rw [textTokens]
    split
    · rename_i hnil
      subst hnil
      exact ⟨.tag c :: parts, .tag hc hcut, .cons (.tag htext) hdenotes⟩
    · rename_i hne
      exact ⟨.text t :: .tag c :: parts, .textTag hne ht hc hcut,
        .cons (.text t) (.cons (.tag htext) hdenotes)⟩

/-- A source has tokens exactly if it is cut into parts and each of its tags is written as one. -/
theorem scanText_eq_ok_iff {source : List Char} {ts : List Token} :
    scanText [] source = .ok ts ↔
      ∃ parts, Cut source parts ∧ List.Forall₂ Part.Denotes parts ts :=
  ⟨exists_cut_of_scanText, fun ⟨_, hcut, hts⟩ => hcut.scanText hts⟩

end StubForge.Template
