import Mathlib.Data.List.Chain
import StubForge.Proofs.Template.Sections

/-! Lines of a template's source: which tags stand alone on their line, said about the source and
not about its tokens, and what such a tag takes away of the texts around it. -/
namespace StubForge.Template

/-! ## Lines -/

/-- Behind the last line feed, or from the start on, there are only spaces and tabs. -/
def FromLineStart (before : List Char) : Prop :=
  ∃ blanks, (∀ c ∈ blanks, isMargin c = true) ∧
    (before = blanks ∨ ∃ earlier, before = earlier ++ '\n' :: blanks)

/-- Up to the first line feed and the carriage returns directly before it, or up to the end, there
are only spaces and tabs. -/
def ToLineEnd (after : List Char) : Prop :=
  ∃ blanks, (∀ c ∈ blanks, isMargin c = true) ∧
    (after = blanks ∨ ∃ returns later, (∀ c ∈ returns, c = '\r') ∧
      after = blanks ++ returns ++ '\n' :: later)

theorem ne_of_isMargin {c d : Char} (h : isMargin c = true) (hd : isMargin d = false) : c ≠ d := by
  rintro rfl
  rw [h] at hd
  cases hd

theorem notMem_of_isMargin {t : List Char} (h : ∀ c ∈ t, isMargin c = true) {d : Char}
    (hd : isMargin d = false) : d ∉ t := fun hmem => ne_of_isMargin (h d hmem) hd rfl

theorem lastLine?_of_notMem {t : List Char} (h : '\n' ∉ t) : lastLine? t = none := by
  simp [lastLine?, h]

theorem firstLine?_of_notMem {t : List Char} (h : '\n' ∉ t) : firstLine? t = none := by
  simp [firstLine?, h]

/-- The last line of a text is what follows its last line feed. -/
theorem lastLine?_append {line : List Char} (h : '\n' ∉ line) (earlier : List Char) :
    lastLine? (earlier ++ '\n' :: line) = some line := by
  have hline : ∀ c ∈ line.reverse, (c != '\n') = true := by
    intro c hc
    rw [bne_iff_ne]
    rintro rfl
    exact h (List.mem_reverse.1 hc)
  rw [lastLine?, if_pos (by simp), List.reverse_append, List.reverse_cons, List.append_assoc,
    List.singleton_append, List.takeWhile_append_of_pos hline,
    List.takeWhile_cons_of_neg (by simp), List.append_nil, List.reverse_reverse]

/-- The first line of a text is what precedes its first line feed, but for carriage returns. -/
theorem firstLine?_append {line : List Char} (h : '\n' ∉ line) (later : List Char) :
    firstLine? (line ++ '\n' :: later) = some (line.reverse.dropWhile (· == '\r')).reverse := by
  have hline : ∀ c ∈ line, (c != '\n') = true := by
    intro c hc
    rw [bne_iff_ne]
    rintro rfl
    exact h hc
  rw [firstLine?, if_pos (by simp), List.takeWhile_append_of_pos hline,
    List.takeWhile_cons_of_neg (by simp), List.append_nil]

theorem exists_last_line {t : List Char} (h : '\n' ∈ t) :
    ∃ earlier line, t = earlier ++ '\n' :: line ∧ '\n' ∉ line := by
  obtain ⟨line, earlier, ht, hline⟩ := List.eq_append_cons_of_mem (List.mem_reverse.2 h)
  refine ⟨earlier.reverse, line.reverse, ?_, fun hmem => hline (List.mem_reverse.1 hmem)⟩
  rw [← List.reverse_reverse t, ht, List.reverse_append, List.reverse_cons, List.append_assoc,
    List.singleton_append]

theorem fromLineStart_append_iff {line : List Char} (h : '\n' ∉ line) (earlier : List Char) :
    FromLineStart (earlier ++ '\n' :: line) ↔ ∀ c ∈ line, isMargin c = true := by
  constructor
  · rintro ⟨blanks, hblanks, heq | ⟨before, heq⟩⟩
    · have hfree := notMem_of_isMargin hblanks (d := '\n') (by decide)
      exact absurd (heq ▸ by simp) hfree
    · have hfree := notMem_of_isMargin hblanks (d := '\n') (by decide)
      have hlast := lastLine?_append h earlier
      rw [heq, lastLine?_append hfree] at hlast
      cases hlast
      exact hblanks
  · exact fun hline => ⟨line, hline, .inr ⟨earlier, rfl⟩⟩

theorem fromLineStart_iff_of_notMem {t : List Char} (h : '\n' ∉ t) :
    FromLineStart t ↔ ∀ c ∈ t, isMargin c = true := by
  constructor
  · rintro ⟨blanks, hblanks, rfl | ⟨earlier, rfl⟩⟩
    · exact hblanks
    · exact absurd (by simp) h
  · exact fun ht => ⟨t, ht, .inl rfl⟩

theorem toLineEnd_append_iff {line : List Char} (h : '\n' ∉ line) (later : List Char) :
    ToLineEnd (line ++ '\n' :: later) ↔
      ∀ c ∈ (line.reverse.dropWhile (· == '\r')).reverse, isMargin c = true := by
  constructor
  · rintro ⟨blanks, hblanks, heq | ⟨returns, after, hreturns, heq⟩⟩
    · have hfree := notMem_of_isMargin hblanks (d := '\n') (by decide)
      exact absurd (heq ▸ by simp) hfree
    · have hfree : '\n' ∉ blanks ++ returns := by
        intro hmem
        rcases List.mem_append.1 hmem with hmem | hmem
        · exact notMem_of_isMargin hblanks (by decide) hmem
        · exact absurd (hreturns _ hmem) (by decide)
      have hfirst := firstLine?_append h later
      have hback : ∀ c ∈ returns.reverse, (c == '\r') = true := fun c hc => by
        simpa using hreturns c (List.mem_reverse.1 hc)
      rw [heq, firstLine?_append hfree, List.reverse_append,
        List.dropWhile_append_of_pos hback] at hfirst
      intro c hc
      rw [← Option.some.inj hfirst] at hc
      have hmem := (List.dropWhile_sublist _).subset (List.mem_reverse.1 hc)
      exact hblanks c (List.mem_reverse.1 hmem)
  · intro hline
    refine ⟨_, hline, .inr ⟨(line.reverse.takeWhile (· == '\r')).reverse, later, ?_, ?_⟩⟩
    · intro c hc
      simpa using List.mem_takeWhile_imp (List.mem_reverse.1 hc)
    · rw [← List.reverse_append, List.takeWhile_append_dropWhile, List.reverse_reverse]

theorem toLineEnd_iff_of_notMem {t : List Char} (h : '\n' ∉ t) :
    ToLineEnd t ↔ ∀ c ∈ t, isMargin c = true := by
  constructor
  · rintro ⟨blanks, hblanks, rfl | ⟨returns, later, -, rfl⟩⟩
    · exact hblanks
    · exact absurd (by simp) h
  · exact fun ht => ⟨t, ht, .inl rfl⟩

theorem fromLineStart_iff {t : List Char} :
    FromLineStart t ↔ ((lastLine? t).getD t).all isMargin = true := by
  rw [List.all_eq_true]
  by_cases h : '\n' ∈ t
  · obtain ⟨earlier, line, rfl, hline⟩ := exists_last_line h
    rw [fromLineStart_append_iff hline, lastLine?_append hline, Option.getD_some]
  · rw [fromLineStart_iff_of_notMem h, lastLine?_of_notMem h, Option.getD_none]

theorem toLineEnd_iff {t : List Char} :
    ToLineEnd t ↔ ((firstLine? t).getD t).all isMargin = true := by
  rw [List.all_eq_true]
  by_cases h : '\n' ∈ t
  · obtain ⟨line, later, rfl, hline⟩ := List.eq_append_cons_of_mem h
    rw [toLineEnd_append_iff hline, firstLine?_append hline, Option.getD_some]
  · rw [toLineEnd_iff_of_notMem h, firstLine?_of_notMem h, Option.getD_none]

instance (t : List Char) : Decidable (FromLineStart t) :=
  decidable_of_iff (((lastLine? t).getD t).all isMargin = true) fromLineStart_iff.symm

instance (t : List Char) : Decidable (ToLineEnd t) :=
  decidable_of_iff (((firstLine? t).getD t).all isMargin = true) toLineEnd_iff.symm

example : ToLineEnd ['\t', '\r', '\r', '\n', 'c'] ∧ ¬ ToLineEnd ['\r', ' ', '\n'] := by decide

/-! ## Places

A place in a source is one of its parts, with the parts in front of it, the nearest first, and those
behind it. -/

/-- A tag that takes its line away when nothing else stands there: any but a value. -/
def Part.OwnsLine : Part → Prop
  | .text _ => False
  | .tag content => ∃ kind name, TagText content kind name ∧ kind ≠ .value

/-- The token of a tag that is no value. -/
def Token.ownsLine : Token → Bool
  | .text _ | .tag .value _ _ => false
  | .tag _ _ _ => true

theorem Part.Denotes.ownsLine_iff {p : Part} {t : Token} (h : p.Denotes t) :
    t.ownsLine = true ↔ p.OwnsLine := by
  cases h with
  | text chars => simp [Token.ownsLine, OwnsLine]
  | @tag content kind name htext =>
    have hkind : Token.ownsLine (.tag kind name []) = true ↔ kind ≠ .value := by
      cases kind <;> simp [Token.ownsLine]
    rw [hkind]
    constructor
    · exact fun hne => ⟨kind, name, htext, hne⟩
    · rintro ⟨kind', name', htext', hne⟩
      cases htext.readTag.symm.trans htext'.readTag
      exact hne

instance : DecidablePred Part.OwnsLine
  | .text _ => .isFalse id
  | .tag content =>
    match h : readTag content with
    | .ok t => decidable_of_iff (t.ownsLine = true) <| by
      obtain ⟨kind, name, rfl, htext⟩ := exists_of_readTag h
      exact (Part.Denotes.tag htext).ownsLine_iff
    | .error _ => .isFalse <| by
      rintro ⟨kind, name, htext, -⟩
      cases h.symm.trans htext.readTag

/-- Nothing but spaces and tabs stands on the line of a tag. -/
def StandsAlone (before : List Part) (p : Part) (after : List Part) : Prop :=
  p.OwnsLine ∧ FromLineStart (spell before.reverse) ∧ ToLineEnd (spell after)

instance (before : List Part) (p : Part) (after : List Part) :
    Decidable (StandsAlone before p after) := inferInstanceAs (Decidable (_ ∧ _ ∧ _))

/-- The line feed that a text begins with, if it does, with a carriage return or without. -/
def lineFeed : List Char → List Char
  | '\r' :: '\n' :: _ => ['\r', '\n']
  | '\n' :: _ => ['\n']
  | _ => []

/-- The spaces and tabs that a text begins with, and the line feed directly behind them. -/
def lineRest (t : List Char) : List Char := t.takeWhile isMargin ++ lineFeed (t.dropWhile isMargin)

/-- What a tag takes away in front of it. -/
def takenBefore (before : List Part) (p : Part) (after : List Part) : List Char :=
  if StandsAlone before p after then margin (spell before.reverse) else []

/-- What a tag takes away behind it. -/
def takenAfter (before : List Part) (p : Part) (after : List Part) : List Char :=
  if StandsAlone before p after then lineRest (spell after) else []

/-- What the part in front of a place takes away of it. -/
def takenByLast : List Part → Part → List Part → List Char
  | [], _, _ => []
  | q :: before, p, after => takenAfter before q (p :: after)

/-- What the part behind a place takes away of it. -/
def takenByNext : List Part → Part → List Part → List Char
  | _, _, [] => []
  | before, p, q :: after => takenBefore (p :: before) q after

/-- The token of a place: a text without what the tags around it take away, or a tag, with a margin
if it is an insertion. -/
inductive Leaves (before after : List Part) : Part → Token → Prop
  | text {chars kept : List Char}
      (h : chars = takenByLast before (.text chars) after ++ kept ++
        takenByNext before (.text chars) after) : Leaves before after (.text chars) (.text kept)
  | insertion {content : List Char} {name : String} (h : TagText content .insertion name) :
      Leaves before after (.tag content)
        (.tag .insertion name (takenBefore before (.tag content) after))
  | tag {content : List Char} {kind : TagKind} {name : String} (h : TagText content kind name)
      (hkind : kind ≠ .insertion) : Leaves before after (.tag content) (.tag kind name [])

/-- A relation that holds at each place of a source, with something for each of its parts. -/
inductive AtEachPlace {α : Type} (R : List Part → Part → List Part → α → Prop) :
    List Part → List Part → List α → Prop
  | nil {before : List Part} : AtEachPlace R before [] []
  | cons {before after : List Part} {p : Part} {x : α} {xs : List α} (h : R before p after x)
      (hafter : AtEachPlace R (p :: before) after xs) :
      AtEachPlace R before (p :: after) (x :: xs)

/-! ## Neighbours -/

/-- Two parts that can be neighbours: no text follows a text. -/
def Apart : Part → Part → Prop
  | .text _, .text _ => False
  | _, _ => True

theorem Apart.symm {p q : Part} (h : Apart p q) : Apart q p := by
  cases q with
  | tag => cases p <;> trivial
  | text => cases p <;> trivial

theorem exists_tag_of_apart {t : List Char} {q : Part} (h : Apart (.text t) q) :
    ∃ c, q = .tag c := by
  cases q with
  | text => exact absurd h id
  | tag c => exact ⟨c, rfl⟩

theorem Cut.isChain {source : List Char} {parts : List Part} (h : Cut source parts) :
    List.IsChain Apart parts := by
  have htag (c : List Char) {parts : List Part} (hparts : List.IsChain Apart parts) :
      List.IsChain Apart (.tag c :: parts) := by
    refine List.isChain_cons.2 ⟨fun q _ => ?_, hparts⟩
    cases q <;> trivial
  induction h with
  | nil => exact .nil
  | text hne ht => exact .singleton _
  | tag hc hr ih => exact htag _ ih
  | textTag hne ht hc hr ih => exact .cons_cons trivial (htag _ ih)

@[simp] theorem spell_nil : spell [] = [] := rfl

theorem spell_cons (p : Part) (parts : List Part) : spell (p :: parts) = p.spell ++ spell parts := rfl

theorem spell_reverse_cons (p : Part) (before : List Part) :
    spell (p :: before).reverse = spell before.reverse ++ p.spell := by
  simp [spell]

/-- A character that what follows has on its first line is a space, a tab or a carriage return. -/
theorem ToLineEnd.isMargin {line later : List Char} {c : Char}
    (h : ToLineEnd (line ++ c :: later)) (hline : '\n' ∉ line) (hfeed : c ≠ '\n')
    (hreturn : c ≠ '\r') : isMargin c = true := by
  obtain ⟨blanks, hblanks, heq | ⟨returns, rest, hreturns, heq⟩⟩ := h
  · exact hblanks c (heq ▸ by simp)
  rcases List.append_eq_append_iff.1 heq with ⟨as, hbody, has⟩ | ⟨as, rfl, has⟩
  · rcases List.cons_eq_append_iff.1 has with ⟨rfl, hend⟩ | ⟨as, rfl, -⟩
    · cases hend
      exact absurd rfl hfeed
    · have hmem : c ∈ blanks ++ returns := hbody ▸ by simp
      exact (List.mem_append.1 hmem).elim (hblanks c) fun h => absurd (hreturns c h) hreturn
  · rcases List.cons_eq_append_iff.1 has with ⟨rfl, hend⟩ | ⟨as, rfl, -⟩
    · cases hend
      exact absurd rfl hfeed
    · exact absurd (by simp) hline

/-- A character that what comes before has on its last line is a space or a tab. -/
theorem FromLineStart.isMargin {earlier line : List Char} {c : Char}
    (h : FromLineStart (earlier ++ c :: line)) (hline : '\n' ∉ line) (hfeed : c ≠ '\n') :
    isMargin c = true := by
  obtain ⟨blanks, hblanks, heq | ⟨before, heq⟩⟩ := h
  · exact hblanks c (heq ▸ by simp)
  rcases List.append_eq_append_iff.1 heq with ⟨as, -, has⟩ | ⟨as, -, has⟩
  · rcases List.cons_eq_append_iff.1 has with ⟨rfl, hend⟩ | ⟨as, rfl, rfl⟩
    · cases hend
      exact absurd rfl hfeed
    · exact absurd (by simp) hline
  · rcases List.cons_eq_append_iff.1 has with ⟨rfl, hend⟩ | ⟨as, rfl, rfl⟩
    · cases hend
      exact absurd rfl hfeed
    · exact hblanks c (by simp)

/-- A tag in front of a text without a line feed stands on the same line. -/
theorem not_fromLineStart_tag (source content : List Char) {t : List Char} (ht : '\n' ∉ t) :
    ¬ FromLineStart (source ++ (Part.tag content).spell ++ t) := by
  intro h
  have hsplit : source ++ (Part.tag content).spell ++ t =
      source ++ '{' :: '{' :: (content ++ ['}']) ++ '}' :: t := by simp [Part.spell]
  rw [hsplit] at h
  exact absurd (h.isMargin ht (by decide)) (by decide)

/-- A tag behind a text without a line feed stands on the same line. -/
theorem not_toLineEnd_tag {t : List Char} (ht : '\n' ∉ t) (content source : List Char) :
    ¬ ToLineEnd (t ++ ((Part.tag content).spell ++ source)) := by
  intro h
  rw [Part.spell, List.cons_append] at h
  exact absurd (h.isMargin ht (by decide) (by decide)) (by decide)

/-- The tokens in front of a tag tell whether a line starts there. -/
theorem startsLine_iff {before : List Part} {ts : List Token}
    (hts : List.Forall₂ Part.Denotes before ts) (hchain : List.IsChain Apart before) :
    startsLine ts = true ↔ FromLineStart (spell before.reverse) := by
  cases hts with
  | nil => exact ⟨fun _ => ⟨[], by simp, .inl rfl⟩, fun _ => rfl⟩
  | @cons p t before ts ht hts =>
    rw [spell_reverse_cons]
    cases ht with
    | @tag content kind name htext =>
      have hnot := not_fromLineStart_tag (spell before.reverse) content (t := []) (by simp)
      rw [List.append_nil] at hnot
      exact iff_of_false Bool.false_ne_true hnot
    | text t =>
      rw [startsLine, Part.spell]
      by_cases hfeed : '\n' ∈ t
      · obtain ⟨earlier, line, rfl, hline⟩ := exists_last_line hfeed
        rw [lastLine?_append hline, ← List.append_assoc, fromLineStart_append_iff hline,
          List.all_eq_true]
      · rw [lastLine?_of_notMem hfeed]
        cases hts with
        | nil =>
          rw [List.reverse_nil, spell_nil, List.nil_append, fromLineStart_iff_of_notMem hfeed]
          simp
        | @cons q u before ts hu hts =>
          obtain ⟨content, rfl⟩ := exists_tag_of_apart hchain.rel
          rw [spell_reverse_cons]
          exact iff_of_false Bool.false_ne_true (not_fromLineStart_tag _ content hfeed)

/-- The tokens behind a tag tell whether its line ends there. -/
theorem endsLine_iff {after : List Part} {ts : List Token}
    (hts : List.Forall₂ Part.Denotes after ts) (hchain : List.IsChain Apart after) :
    endsLine ts = true ↔ ToLineEnd (spell after) := by
  cases hts with
  | nil => exact ⟨fun _ => ⟨[], by simp, .inl rfl⟩, fun _ => rfl⟩
  | @cons p t after ts ht hts =>
    rw [spell_cons]
    cases ht with
    | @tag content kind name htext =>
      exact iff_of_false Bool.false_ne_true (not_toLineEnd_tag (t := []) (by simp) content _)
    | text t =>
      rw [endsLine, Part.spell]
      by_cases hfeed : '\n' ∈ t
      · obtain ⟨line, later, rfl, hline⟩ := List.eq_append_cons_of_mem hfeed
        rw [firstLine?_append hline, List.append_assoc, List.cons_append,
          toLineEnd_append_iff hline, List.all_eq_true]
      · rw [firstLine?_of_notMem hfeed]
        cases hts with
        | nil =>
          rw [spell_nil, List.append_nil, toLineEnd_iff_of_notMem hfeed]
          simp
        | @cons q u after ts hu hts =>
          obtain ⟨content, rfl⟩ := exists_tag_of_apart hchain.rel
          exact iff_of_false Bool.false_ne_true (not_toLineEnd_tag hfeed content _)

/-! ## Texts around a tag -/

theorem takeWhile_append_cons {p : Char → Bool} {c : Char} (hc : p c = false) (t r : List Char) :
    (t ++ c :: r).takeWhile p = t.takeWhile p := by
  rw [List.takeWhile_append, List.takeWhile_cons_of_neg (by simp [hc]), List.append_nil]
  split
  · rename_i h
    exact (List.takeWhile_prefix p).eq_of_length h |>.symm
  · rfl

/-- The margin of a text is that of its last line. -/
theorem margin_append_cons {c : Char} (hc : isMargin c = false) (r t : List Char) :
    margin (r ++ c :: t) = margin t := by
  rw [margin, List.reverse_append, List.reverse_cons, List.append_assoc, List.singleton_append,
    takeWhile_append_cons hc, margin]

theorem withoutMargin_append_margin (t : List Char) : withoutMargin t ++ margin t = t := by
  rw [withoutMargin, margin, ← List.reverse_append, List.takeWhile_append_dropWhile,
    List.reverse_reverse]

theorem margin_spell_text {before : List Part} {t : List Char}
    (hchain : List.IsChain Apart (.text t :: before)) :
    margin (spell (.text t :: before).reverse) = margin t := by
  rw [spell_reverse_cons, Part.spell]
  cases before with
  | nil => rfl
  | cons q before =>
    obtain ⟨content, rfl⟩ := exists_tag_of_apart hchain.rel
    have hsplit : spell (.tag content :: before).reverse ++ t =
        spell before.reverse ++ '{' :: '{' :: (content ++ ['}']) ++ '}' :: t := by
      rw [spell_reverse_cons]
      simp [Part.spell]
    rw [hsplit, margin_append_cons (by decide)]

theorem lineFeed_append (t r : List Char) : lineFeed (t ++ '{' :: r) = lineFeed t := by
  rcases t with _ | ⟨c, _ | ⟨d, t⟩⟩
  · rfl
  · by_cases hfeed : c = '\n'
    · subst hfeed
      rfl
    · simp [lineFeed, hfeed]
  · by_cases hfeed : c = '\n'
    · subst hfeed
      rfl
    · by_cases hreturn : c = '\r' ∧ d = '\n'
      · obtain ⟨rfl, rfl⟩ := hreturn
        rfl
      · simp_all [lineFeed]

theorem lineRest_append (t r : List Char) : lineRest (t ++ '{' :: r) = lineRest t := by
  have hdrop : (t ++ '{' :: r).dropWhile isMargin = t.dropWhile isMargin ++ '{' :: r := by
    rw [List.dropWhile_append]
    split
    · rename_i hnone
      rw [List.isEmpty_iff.1 hnone]
      rfl
    · rfl
  rw [lineRest, takeWhile_append_cons (by decide), hdrop, lineFeed_append, lineRest]

/-- Behind the spaces and tabs that a text begins with, a line loses its line feed only. -/
theorem lineFeed_append_dropLineEnd (t : List Char) :
    lineFeed (t.dropWhile isMargin) ++ dropLineEnd t = t.dropWhile isMargin := by
  rw [dropLineEnd]
  rcases t.dropWhile isMargin with _ | ⟨c, _ | ⟨d, r⟩⟩
  · rfl
  · by_cases hfeed : c = '\n'
    · subst hfeed
      rfl
    · simp [lineFeed, hfeed]
  · by_cases hfeed : c = '\n'
    · subst hfeed
      rfl
    · by_cases hreturn : c = '\r' ∧ d = '\n'
      · obtain ⟨rfl, rfl⟩ := hreturn
        rfl
      · simp_all [lineFeed]

theorem lineRest_append_dropLineEnd (t : List Char) : lineRest t ++ dropLineEnd t = t := by
  rw [lineRest, List.append_assoc, lineFeed_append_dropLineEnd, List.takeWhile_append_dropWhile]

theorem lineRest_spell_text {after : List Part} {t : List Char}
    (hchain : List.IsChain Apart (.text t :: after)) :
    lineRest (spell (.text t :: after)) = lineRest t := by
  rw [spell_cons, Part.spell]
  cases after with
  | nil => rw [spell_nil, List.append_nil]
  | cons q after =>
    obtain ⟨content, rfl⟩ := exists_tag_of_apart hchain.rel
    rw [spell_cons, Part.spell, List.cons_append, lineRest_append]

/-- What a tag in front of a text takes away of it ends no later than the first line, and the margin
of a tag behind it is on the last. -/
theorem margin_dropLineEnd {t content r : List Char}
    (h : ToLineEnd (t ++ ((Part.tag content).spell ++ r))) : margin (dropLineEnd t) = margin t := by
  by_cases hfeed : '\n' ∈ t
  · obtain ⟨line, later, rfl, hline⟩ := List.eq_append_cons_of_mem hfeed
    rw [List.append_assoc, List.cons_append, toLineEnd_append_iff hline,
      ← toLineEnd_append_iff hline later] at h
    obtain ⟨blanks, hblanks, heq | ⟨returns, rest, hreturns, heq⟩⟩ := h
    · exact absurd (heq ▸ hfeed) (notMem_of_isMargin hblanks (by decide))
    · have hrest (r : List Char) : margin (r ++ '\n' :: rest) = margin rest :=
        margin_append_cons (by decide) r rest
      rw [heq, hrest, dropLineEnd, List.append_assoc, List.dropWhile_append_of_pos hblanks]
      rcases returns with _ | ⟨c, _ | ⟨d, returns⟩⟩
      · rfl
      · cases hreturns c (by simp)
        rfl
      · cases hreturns c (by simp)
        cases hreturns d (by simp)
        exact hrest ('\r' :: '\r' :: returns)
  · exact absurd h (not_toLineEnd_tag hfeed content r)

/-! ## Places of lone tags -/

/-- Marks of a source: the token of each part, and whether it stands alone. -/
def Marks (before rest : List Part) (marks : List (Token × Bool)) : Prop :=
  AtEachPlace (fun before p after mark =>
    p.Denotes mark.1 ∧ (mark.2 = true ↔ StandsAlone before p after)) before rest marks

/-- A tag is taken to stand alone exactly if it does so in the source. -/
theorem marks_markAlone {before rest : List Part} {bs ts : List Token}
    (hbefore : List.Forall₂ Part.Denotes before bs) (hts : List.Forall₂ Part.Denotes rest ts)
    (hback : List.IsChain Apart before) (hchain : List.IsChain Apart rest)
    (hnext : ∀ q ∈ before.head?, ∀ p ∈ rest.head?, Apart p q) :
    Marks before rest (markAlone bs ts) := by
  induction hts generalizing before bs with
  | nil => exact .nil
  | @cons p t rest ts ht hts ih =>
    rw [markAlone.eq_def]
    have hfront : List.IsChain Apart (p :: before) :=
      List.isChain_cons.2 ⟨fun q hq => hnext q hq p rfl, hback⟩
    obtain ⟨hafter, hchain⟩ := List.isChain_cons.1 hchain
    refine .cons ⟨ht, ?_⟩ (ih (.cons ht hbefore) hfront hchain ?_)
    · have hlines := and_congr (startsLine_iff hbefore hback) (endsLine_iff hts hchain)
      rw [StandsAlone, ← ht.ownsLine_iff, ← hlines]
      cases t with
      | text => simp [Token.ownsLine]
      | tag kind => cases kind <;> simp [Token.ownsLine]
    · intro q hq r hr
      cases hq
      exact (hafter r hr).symm

theorem leadsLone_iff {before rest : List Part} {marks : List (Token × Bool)}
    (h : Marks before rest marks) :
    leadsLone marks = true ↔ ∃ q after, rest = q :: after ∧ StandsAlone before q after := by
  cases h with
  | nil => simp [leadsLone]
  | @cons _ after p mark marks hmark hafter =>
    obtain ⟨t, alone⟩ := mark
    have halone : leadsLone ((t, alone) :: marks) = alone := by cases alone <;> rfl
    rw [halone, hmark.2]
    constructor
    · exact fun h => ⟨p, after, rfl, h⟩
    · rintro ⟨q, r, hq, h⟩
      cases hq
      exact h

section
variable {before after : List Part} {t : List Char}

theorem takenByLast_text (hchain : List.IsChain Apart (.text t :: after)) {afterLone : Bool}
    (hlone : afterLone = true ↔ ∃ q b, before = q :: b ∧ StandsAlone b q (.text t :: after)) :
    takenByLast before (.text t) after = if afterLone then lineRest t else [] := by
  cases before with
  | nil =>
    have hnot : ¬ afterLone = true := fun h => by simpa using hlone.1 h
    rw [takenByLast, if_neg hnot]
  | cons q b =>
    have halone : afterLone = true ↔ StandsAlone b q (.text t :: after) := by
      rw [hlone]
      constructor
      · rintro ⟨_, _, ⟨⟩, h⟩
        exact h
      · exact fun h => ⟨q, b, rfl, h⟩
    rw [takenByLast, takenAfter, lineRest_spell_text hchain]
    exact if_congr halone.symm rfl rfl

theorem takenByNext_text (hchain : List.IsChain Apart (.text t :: before)) {beforeLone : Bool}
    (hlone : beforeLone = true ↔ ∃ q r, after = q :: r ∧ StandsAlone (.text t :: before) q r) :
    takenByNext before (.text t) after = if beforeLone then margin t else [] := by
  cases after with
  | nil =>
    have hnot : ¬ beforeLone = true := fun h => by simpa using hlone.1 h
    rw [takenByNext, if_neg hnot]
  | cons q r =>
    have halone : beforeLone = true ↔ StandsAlone (.text t :: before) q r := by
      rw [hlone]
      constructor
      · rintro ⟨_, _, ⟨⟩, h⟩
        exact h
      · exact fun h => ⟨q, r, rfl, h⟩
    rw [takenByNext, takenBefore, margin_spell_text hchain]
    exact if_congr halone.symm rfl rfl

/-- The margin of a tag behind a text is the same when the text has lost its first line. -/
theorem margin_of_lone (hchain : List.IsChain Apart (.text t :: after)) {afterLone : Bool}
    (hlone : afterLone = true ↔ ∃ q b, before = q :: b ∧ StandsAlone b q (.text t :: after))
    (hnext : ∃ q r, after = q :: r ∧ StandsAlone (.text t :: before) q r) :
    margin (if afterLone then dropLineEnd t else t) = margin t := by
  by_cases hafter : afterLone = true
  · obtain ⟨q, b, rfl, -, -, hend⟩ := hlone.1 hafter
    obtain ⟨q', r, rfl, -⟩ := hnext
    obtain ⟨content, rfl⟩ := exists_tag_of_apart hchain.rel
    rw [if_pos hafter]
    exact margin_dropLineEnd hend
  · rw [if_neg hafter]

/-- What is left of a text is what the tags around it do not take away. -/
theorem leaves_text (hchain : List.IsChain Apart (.text t :: after))
    (hfront : List.IsChain Apart (.text t :: before)) {afterLone beforeLone : Bool}
    (hlone : afterLone = true ↔ ∃ q b, before = q :: b ∧ StandsAlone b q (.text t :: after))
    (hnext : beforeLone = true ↔ ∃ q r, after = q :: r ∧ StandsAlone (.text t :: before) q r)
    {kept : List Char} (hkept : kept = if afterLone then dropLineEnd t else t) :
    Leaves before after (.text t) (.text (if beforeLone then withoutMargin kept else kept)) := by
  have htaken : takenByLast before (.text t) after ++ kept = t := by
    rw [takenByLast_text hchain hlone, hkept]
    split
    · exact lineRest_append_dropLineEnd t
    · rfl
  refine .text ?_
  rw [takenByNext_text hfront hnext, List.append_assoc]
  by_cases hbefore : beforeLone = true
  · rw [if_pos hbefore, if_pos hbefore, ← margin_of_lone hchain hlone (hnext.1 hbefore), ← hkept,
      withoutMargin_append_margin, htaken]
  · rw [if_neg hbefore, if_neg hbefore, List.append_nil, htaken]

end

/-- The tokens that are left of a source are those of its places. -/
theorem leaves_takeLines {before rest : List Part} {marks : List (Token × Bool)}
    (hmarks : Marks before rest marks) (hback : List.IsChain Apart before)
    (hchain : List.IsChain Apart rest) (hnext : ∀ q ∈ before.head?, ∀ p ∈ rest.head?, Apart p q)
    {afterLone : Bool} {held : List Char}
    (hlone : afterLone = true ↔ ∃ q b, before = q :: b ∧ StandsAlone b q rest)
    (hheld : ∀ p r, rest = p :: r → StandsAlone before p r → held = margin (spell before.reverse)) :
    AtEachPlace (fun before p after => Leaves before after p) before rest
      (takeLines afterLone held marks) := by
  induction hmarks generalizing afterLone held with
  | nil => exact .nil
  | @cons before after p mark marks hmark hmarks ih =>
    obtain ⟨u, alone⟩ := mark
    obtain ⟨hdenotes, halone⟩ := hmark
    have hfront : List.IsChain Apart (p :: before) :=
      List.isChain_cons.2 ⟨fun q hq => hnext q hq p rfl, hback⟩
    obtain ⟨hafter, hrest⟩ := List.isChain_cons.1 hchain
    have hapart : ∀ q ∈ (p :: before).head?, ∀ r ∈ after.head?, Apart r q := by
      intro q hq r hr
      cases hq
      exact (hafter r hr).symm
    cases hdenotes with
    | text t =>
      have hnext' := leadsLone_iff hmarks
      -- a text is never alone, so nothing is taken away of what stands behind it
      have hnone : false = true ↔
          ∃ q b, Part.text t :: before = q :: b ∧ StandsAlone b q after := by
        refine iff_of_false Bool.false_ne_true ?_
        rintro ⟨_, _, ⟨⟩, h⟩
        exact h.1
      have hleaves := leaves_text hchain hfront hlone hnext' rfl
      rw [takeLines_text]
      dsimp only
      by_cases hleads : leadsLone marks = true
      · rw [if_pos hleads] at hleaves ⊢
        refine .cons hleaves (ih hfront hrest hapart hnone fun _ _ _ _ => ?_)
        rw [margin_spell_text hfront]
        exact margin_of_lone hchain hlone (hnext'.1 hleads)
      · rw [if_neg hleads] at hleaves ⊢
        refine .cons hleaves (ih hfront hrest hapart hnone fun q r hq hstands => ?_)
        exact absurd (hnext'.2 ⟨q, r, hq, hstands⟩) hleads
    | @tag content kind name htext =>
      have hnot : ¬ FromLineStart (spell (Part.tag content :: before).reverse) := by
        have h := not_fromLineStart_tag (spell before.reverse) content (t := []) (by simp)
        rwa [List.append_nil, ← spell_reverse_cons] at h
      rw [takeLines]
      refine .cons ?_ (ih hfront hrest hapart ?_ ?_)
      · by_cases hkind : kind = .insertion
        · subst hkind
          have hmargin : (if alone then held else []) =
              takenBefore before (.tag content) after := by
            rw [takenBefore]
            by_cases hstands : StandsAlone before (.tag content) after
            · rw [if_pos (halone.2 hstands), if_pos hstands, hheld _ _ rfl hstands]
            · rw [if_neg (fun h => hstands (halone.1 h)), if_neg hstands]
          rw [beq_self_eq_true, Bool.and_true, hmargin]
          exact .insertion htext
        · rw [if_neg (by simp [hkind])]
          exact .tag htext hkind
      · rw [halone]
        constructor
        · exact fun h => ⟨_, _, rfl, h⟩
        · rintro ⟨_, _, ⟨⟩, h⟩
          exact h
      · exact fun q r _ hstands => absurd hstands.2.1 hnot

/-- A tag is taken to stand alone exactly if spaces and tabs are all that stands on its line, and
the tree has the texts of the source without what such tags take away, with the margin of each
insertion among them. -/
theorem tokens_lines {source : String} {ts : List Token} (h : tokens source = .ok ts) :
    ∃ parts raw, Cut source.toList parts ∧ source.toList = spell parts ∧
      scanText [] source.toList = .ok raw ∧ Marks [] parts (markAlone [] raw) ∧
      AtEachPlace (fun before p after => Leaves before after p) [] parts ts ∧
      ∀ nodes, parse source = .ok nodes → Node.writeAll nodes = ts.filter Token.isVisible := by
  obtain ⟨parts, raw, hcut, hdenotes, rfl⟩ := tokens_eq_ok_iff.1 h
  have hmarks : Marks [] parts (markAlone [] raw) :=
    marks_markAlone .nil hdenotes .nil hcut.isChain (by simp)
  refine ⟨parts, raw, hcut, hcut.spell, hcut.scanText hdenotes, hmarks, ?_, fun nodes hnodes => ?_⟩
  · exact leaves_takeLines hmarks .nil hcut.isChain (by simp) (by simp) fun _ _ _ _ => rfl
  · obtain ⟨ts, hts, hassembled⟩ := parse_eq_ok.1 hnodes
    cases h.symm.trans hts
    exact (assemble_eq_ok_iff (hasOwnMargin_of_tokens hts)).1 hassembled

/-- An insertion alone on its line takes the margin and the line end with it. -/
theorem tokens_lines_insertion :
    let source := "a\n  \x7b\x7b>b\x7d\x7d\t\r\nc"
    let ts : List Token :=
      [.text ['a', '\n'], .tag .insertion "b" [' ', ' '], .text ['c']]
    tokens source = .ok ts ∧
      ∃ parts raw, Cut source.toList parts ∧ source.toList = spell parts ∧
        scanText [] source.toList = .ok raw ∧ Marks [] parts (markAlone [] raw) ∧
        AtEachPlace (fun before p after => Leaves before after p) [] parts ts ∧
        ∀ nodes, parse source = .ok nodes → Node.writeAll nodes = ts := by
  have htokens : tokens "a\n  \x7b\x7b>b\x7d\x7d\t\r\nc" =
      .ok [.text ['a', '\n'], .tag .insertion "b" [' ', ' '], .text ['c']] := by rfl
  exact ⟨htokens, tokens_lines htokens⟩

end StubForge.Template
