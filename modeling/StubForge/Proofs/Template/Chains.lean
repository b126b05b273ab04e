import StubForge.Proofs.Template.Lines
import StubForge.Proofs.Template.Termination
import StubForge.Proofs.Text.Indentation

/-! Templates that consist of an insertion and nothing else. A chain of them is rendered as its last
template is, behind the margins of all; and a rendering that comes to an end does not depend on the
depth that it is allowed. -/
namespace StubForge.Template

/-! ## Sources of lone insertions -/

/-- A source of one line with nothing but an insertion, spaces and tabs. -/
inductive LoneInsertion (next : String) (margin : List Char) : List Char → Prop
  | intro {content blanks feed : List Char} (hmargin : ∀ c ∈ margin, isMargin c = true)
      (hfree : ¬ ['}', '}'] <:+: content ++ ['}']) (htag : TagText content .insertion next)
      (hblanks : ∀ c ∈ blanks, isMargin c = true)
      (hfeed : feed = [] ∨ feed = ['\n'] ∨ feed = ['\r', '\n']) :
      LoneInsertion next margin (margin ++ '{' :: '{' :: (content ++ '}' :: '}' :: (blanks ++ feed)))

theorem free_of_notMem {c : Char} {t : List Char} (h : c ∉ t) : ¬ [c, c] <:+: t ++ [c] := by
  intro hpair
  have hcount := hpair.sublist.count_le c
  rw [List.count_append, List.count_eq_zero_of_not_mem h] at hcount
  simp at hcount

theorem spell_text (t : List Char) : spell [.text t] = t := by simp [spell, Part.spell]

theorem startsLine_textTokens {t : List Char} (h : FromLineStart t) :
    startsLine (textTokens t) = true := by
  rw [textTokens]
  split
  · rfl
  · refine (startsLine_iff (.cons (.text t) .nil) (.singleton _)).2 ?_
    rwa [List.reverse_singleton, spell_text]

theorem endsLine_textTokens {t : List Char} (h : ToLineEnd t) : endsLine (textTokens t) = true := by
  rw [textTokens]
  split
  · rfl
  · refine (endsLine_iff (.cons (.text t) .nil) (.singleton _)).2 ?_
    rwa [spell_text]

theorem margin_of_isMargin {m : List Char} (h : ∀ c ∈ m, isMargin c = true) : margin m = m := by
  rw [margin, List.takeWhile_eq_self_iff.2 fun c hc => h c (List.mem_reverse.1 hc),
    List.reverse_reverse]

theorem withoutMargin_of_isMargin {m : List Char} (h : ∀ c ∈ m, isMargin c = true) :
    withoutMargin m = [] := by
  rw [withoutMargin, List.dropWhile_eq_nil_iff.2 fun c hc => h c (List.mem_reverse.1 hc),
    List.reverse_nil]

section
variable {margin rest : List Char} (hmargin : ∀ c ∈ margin, isMargin c = true)
  (hrest : ToLineEnd rest) (next : String)
include hmargin hrest

theorem markAlone_insertion :
    markAlone (textTokens margin) (.tag .insertion next [] :: textTokens rest) =
      (.tag .insertion next [], true) ::
        markAlone (.tag .insertion next [] :: textTokens margin) (textTokens rest) := by
  have hstarts := startsLine_textTokens ⟨margin, hmargin, .inl rfl⟩
  have hends := endsLine_textTokens hrest
  rw [markAlone.eq_def]
  simp only [hstarts, hends, Bool.and_true]

/-- The insertion has the text before it as its margin, and nothing else is left of it. -/
theorem assemble_margin : assemble [] [] (takeLines false [] (markAlone []
      (textTokens margin ++ .tag .insertion next [] :: textTokens rest))) =
    assemble [] [] (takeLines false margin
      (markAlone (textTokens margin) (.tag .insertion next [] :: textTokens rest))) := by
  have hlone := markAlone_insertion hmargin hrest next
  by_cases hne : margin = []
  · subst hne
    rfl
  · rw [textTokens, if_neg hne] at hlone ⊢
    rw [List.singleton_append, markAlone, hlone]
    simp [takeLines, assemble, margin_of_isMargin hmargin, withoutMargin_of_isMargin hmargin]

theorem assemble_insertion (hdrop : dropLineEnd rest = []) :
    assemble [] [] (takeLines false [] (markAlone []
      (textTokens margin ++ .tag .insertion next [] :: textTokens rest))) =
    .ok [.insertion next (String.ofList margin)] := by
  rw [assemble_margin hmargin hrest, markAlone_insertion hmargin hrest]
  by_cases hne : rest = []
  · have hnone : textTokens rest = [] := if_pos hne
    rw [hnone]
    rfl
  · have hone : textTokens rest = [.text rest] := if_neg hne
    rw [hone]
    simp [markAlone, takeLines, assemble, hdrop]

end

theorem dropLineEnd_append {blanks feed : List Char} (hblanks : ∀ c ∈ blanks, isMargin c = true)
    (hfeed : feed = [] ∨ feed = ['\n'] ∨ feed = ['\r', '\n']) :
    ToLineEnd (blanks ++ feed) ∧ dropLineEnd (blanks ++ feed) = [] := by
  rw [dropLineEnd, List.dropWhile_append_of_pos hblanks]
  rcases hfeed with rfl | rfl | rfl
  · exact ⟨⟨blanks, hblanks, .inl (List.append_nil blanks)⟩, rfl⟩
  · exact ⟨⟨blanks, hblanks, .inr ⟨[], [], by simp⟩⟩, rfl⟩
  · exact ⟨⟨blanks, hblanks, .inr ⟨['\r'], [], by simp⟩⟩, rfl⟩

/-- The tree of such a source is the insertion behind its margin. -/
theorem LoneInsertion.parse_eq {next : String} {margin : List Char} {source : String}
    (h : LoneInsertion next margin source.toList) :
    parse source = .ok [.insertion next (String.ofList margin)] := by
  generalize hsource : source.toList = t at h
  cases h with
  | @intro content blanks feed hmargin hfree htag hblanks hfeed =>
    have hfront : '{' ∉ margin := notMem_of_isMargin hmargin (by decide)
    have hback : '{' ∉ blanks ++ feed := by
      rw [List.mem_append, not_or]
      refine ⟨notMem_of_isMargin hblanks (by decide), ?_⟩
      rcases hfeed with rfl | rfl | rfl <;> decide
    have hrest : ¬ ['{', '{'] <:+: blanks ++ feed := fun hpair =>
      hback (hpair.subset List.mem_cons_self)
    have htokens := (scanText_eq_ok_of_tag (free_of_notMem hfront) hfree).2
      ⟨_, _, htag.readTag, scanText_of_free hrest [], rfl⟩
    obtain ⟨hends, hdrop⟩ := dropLineEnd_append hblanks hfeed
    rw [parse, tokens, hsource, htokens]
    exact assemble_insertion hmargin hends next hdrop

/-! ## Depth -/

namespace TemplateSet

theorem Ends.of_bind {result : Except RenderFault String} {f : String → Except RenderFault String}
    (h : Ends (result >>= f)) : Ends result ∧ ∀ text, result = .ok text → Ends (f text) := by
  cases result with
  | ok text =>
    refine ⟨ends_ok text, fun text' heq => ?_⟩
    cases heq
    exact h
  | error fault => exact ⟨h, nofun⟩

theorem ends_map_iff {result : Except RenderFault String} {f : String → String} :
    Ends (result.map f) ↔ Ends result := by
  cases result with
  | ok text => exact iff_of_true (ends_ok (f text)) (ends_ok text)
  | error fault => exact Iff.rfl

/-- Two steps in a row do not change if neither of them changes where it comes to an end. -/
theorem Ends.bind_eq {result result' : Except RenderFault String}
    {f f' : String → Except RenderFault String} (h : Ends (result >>= f))
    (hresult : Ends result → result' = result) (hf : ∀ text, Ends (f text) → f' text = f text) :
    result' >>= f' = result >>= f := by
  obtain ⟨hends, hnext⟩ := h.of_bind
  rw [hresult hends]
  cases result with
  | ok text => exact hf text (hnext text rfl)
  | error fault => rfl

theorem Ends.concat_eq {α : Type} {f f' : α → Except RenderFault String} {xs : List α}
    (h : Ends (concat (xs.map f))) (hf : ∀ x, Ends (f x) → f' x = f x) :
    concat (xs.map f') = concat (xs.map f) := by
  -- what stands behind the first fault may change, as nothing looks at it
  induction xs with
  | nil => rfl
  | cons x xs ih =>
    rw [List.map_cons, concat] at h
    rw [List.map_cons, List.map_cons, concat, concat]
    exact h.bind_eq (hf x) fun text hrest => hrest.bind_eq ih fun _ _ => rfl

/-- What comes to an end with `insert` does with `insert'`, and in the same way. -/
def Extends (insert insert' : String → Renderer) : Prop :=
  ∀ source name scopes, Ends (insert source name scopes) →
    insert' source name scopes = insert source name scopes

mutual

/-- With another way to render insertions a node is what it was, if its rendering came to an end. -/
theorem Extends.renderNode_eq {insert insert' : String → Renderer} (hinsert : Extends insert insert')
    (n : Node) {template : String} {scopes : List Dictionary}
    (h : Ends (renderNode insert template scopes n)) :
    renderNode insert' template scopes n = renderNode insert template scopes n := by
  cases n with
  | text t => rfl
  | value key => rfl
  | block key inverted children =>
    cases inverted with
    | true =>
      rw [renderNode] at h ⊢
      rw [renderNode]
      split
      · rfl
      · rename_i hnot
        rw [if_neg hnot] at h
        exact hinsert.renderNodes_eq children h
    | false =>
      rw [renderNode] at h
      rw [renderNode, renderNode]
      exact h.concat_eq fun inner hinner => hinsert.renderNodes_eq children hinner
  | insertion name margin =>
    rw [renderNode] at h
    rw [renderNode, renderNode, hinsert _ _ _ (ends_map_iff.1 h)]

theorem Extends.renderNodes_eq {insert insert' : String → Renderer}
    (hinsert : Extends insert insert') (nodes : List Node) {template : String}
    {scopes : List Dictionary} (h : Ends (renderNodes insert template scopes nodes)) :
    renderNodes insert' template scopes nodes = renderNodes insert template scopes nodes := by
  cases nodes with
  | nil => rfl
  | cons n r =>
    rw [renderNodes] at h
    rw [renderNodes, renderNodes]
    exact h.bind_eq (hinsert.renderNode_eq n) fun text hrest =>
      hrest.bind_eq (hinsert.renderNodes_eq r) fun _ _ => rfl

end

section
variable {set : TemplateSet}

theorem not_ends_renderWithin_zero {source name : String} {scopes : List Dictionary} :
    ¬ Ends (set.renderWithin 0 source name scopes) := fun h => h source rfl

theorem extends_renderWithin_succ (depth : Nat) :
    Extends (set.renderWithin depth) (set.renderWithin (depth + 1)) := by
  induction depth with
  | zero => exact fun source name scopes h => absurd h not_ends_renderWithin_zero
  | succ depth ih =>
    intro source name scopes h
    rw [renderWithin] at h ⊢
    rw [renderWithin]
    cases hname : set.find? name with
    | none => rfl
    | some nodes =>
      rw [hname] at h
      exact ih.renderNodes_eq nodes h

/-- Where a template comes to an end, it does at any greater depth. -/
theorem extends_renderWithin (depth more : Nat) :
    Extends (set.renderWithin depth) (set.renderWithin (depth + more)) := by
  induction more with
  | zero => exact fun _ _ _ _ => rfl
  | succ more ih =>
    intro source name scopes h
    have heq := ih source name scopes h
    rw [← heq] at h
    rw [← Nat.add_assoc, extends_renderWithin_succ (depth + more) source name scopes h, heq]

theorem ends_render (hset : set.Acyclic) (name : String) (d : Dictionary) :
    Ends (set.render name d) := by
  rw [← set.renderCalls_eq_render hset le_rfl]
  exact set.ends_renderCalls hset le_rfl name d

end

/-! ## Chains -/

/-- From one template to another over templates that are an insertion of the next and nothing else,
with the margins of the insertions. -/
inductive Chain (set : TemplateSet) : String → List String → String → Prop
  | nil {name : String} (h : set.contains name = true) : Chain set name [] name
  | cons {name next last margin : String} {margins : List String}
      (hname : set.find? name = some [.insertion next margin])
      (hmargin : ∀ c ∈ margin.toList, isMargin c = true) (hnext : Chain set next margins last) :
      Chain set name (margin :: margins) last

section
variable {set : TemplateSet} {first last : String} {margins : List String}
  (h : set.Chain first margins last)
include h

theorem Chain.isMargin_join : ∀ c ∈ (String.join margins).toList, isMargin c = true := by
  induction h with
  | nil => simp
  | cons hname hmargin hnext ih =>
    intro c hc
    rw [String.join_cons, String.toList_append] at hc
    exact (List.mem_append.1 hc).elim (hmargin c) (ih c)

/-- A chain is rendered as its last template is, behind all the margins. -/
theorem Chain.renderWithin_eq (depth : Nat) (source : String) (scopes : List Dictionary) :
    set.renderWithin (margins.length + (depth + 1)) source first scopes =
      (set.renderWithin (depth + 1) last last scopes).map (Text.indent (String.join margins)) := by
  induction h generalizing source with
  | @nil name hname =>
    obtain ⟨nodes, hnodes⟩ := Option.isSome_iff_exists.1 hname
    rw [List.length_nil, Nat.zero_add, renderWithin, renderWithin, hnodes, String.join_nil,
      Text.indent_empty, Except.map_id]
    rfl
  | @cons name next last margin margins hname hmargin hnext ih =>
    have hdepth : (margin :: margins).length + (depth + 1) = margins.length + (depth + 1) + 1 := by
      rw [List.length_cons]
      omega
    rw [hdepth, renderWithin, hname]
    simp only [renderNodes_singleton, renderNode, ih]
    have hjoin := hnext.isMargin_join
    have hmargins (t : String) : Text.indent margin (Text.indent (String.join margins) t) =
        Text.indent (String.join (margin :: margins)) t := by
      rw [String.join_cons, Text.indent_indent margin (notMem_of_isMargin hjoin (by decide))
        (notMem_of_isMargin hjoin (by decide))]
    cases set.renderWithin (depth + 1) last last scopes with
    | ok text => exact congrArg Except.ok (hmargins text)
    | error fault => rfl

/-- A chain that is longer than the depth does not come to an end. -/
theorem Chain.not_ends {depth : Nat} (hdepth : depth ≤ margins.length) (source : String)
    (scopes : List Dictionary) : ¬ Ends (set.renderWithin depth source first scopes) := by
  induction h generalizing source depth with
  | nil =>
    rw [Nat.le_zero.1 hdepth]
    exact not_ends_renderWithin_zero
  | cons hname hmargin hnext ih =>
    cases depth with
    | zero => exact not_ends_renderWithin_zero
    | succ depth =>
      rw [renderWithin, hname]
      simp only [renderNodes_singleton, renderNode]
      rw [ends_map_iff]
      exact ih (Nat.le_of_succ_le_succ hdepth) _

/-- In whole, too, if it comes to an end: the last template can do with what depth is left. -/
theorem Chain.render_eq {d : Dictionary} (hends : Ends (set.render first d)) :
    set.render first d = (set.render last d).map (Text.indent (String.join margins)) := by
  have hlt : margins.length < set.maxDepth := by
    by_contra hnot
    exact h.not_ends (Nat.le_of_not_lt hnot) first [d] hends
  -- the chain takes its length off the depth, which the last template then turns out not to need
  obtain ⟨depth, hdepth⟩ := Nat.exists_eq_add_of_lt hlt
  have hfirst := h.renderWithin_eq depth first [d]
  rw [← Nat.add_assoc, ← hdepth] at hfirst
  rw [render, hfirst, ends_map_iff] at hends
  have hlast := extends_renderWithin (depth + 1) margins.length last last [d] hends
  have hsum : depth + 1 + margins.length = set.maxDepth := by omega
  rw [hsum] at hlast
  rw [render, hfirst, render, hlast]

end

end TemplateSet

/-! ## Loaded templates -/

theorem lookup_of_forall₂ {sources : List (String × String)} {templates : List (String × List Node)}
    (h : List.Forall₂ (fun s t => t.1 = s.1 ∧ parse s.2 = .ok t.2) sources templates)
    {name source : String} (hname : sources.lookup name = some source) :
    ∃ nodes, templates.lookup name = some nodes ∧ parse source = .ok nodes := by
  induction h with
  | nil => cases hname
  | @cons s t sources templates hhead htail ih =>
    obtain ⟨key, text⟩ := s
    obtain ⟨key', nodes⟩ := t
    obtain ⟨rfl, hparse⟩ := hhead
    rw [List.lookup_cons] at hname ⊢
    cases hkey : name == key' with
    | true =>
      rw [hkey] at hname
      cases hname
      exact ⟨nodes, rfl, hparse⟩
    | false =>
      rw [hkey] at hname
      exact ih hname

/-- A loaded template is the tree of the last source of its name. -/
theorem find?_of_load {dialect : String} {sources : List (String × String)} {set : TemplateSet}
    (h : load dialect sources = .ok set) {name source : String}
    (hname : sources.reverse.lookup name = some source) :
    ∃ nodes, set.find? name = some nodes ∧ parse source = .ok nodes := by
  obtain ⟨templates, htemplates, hset⟩ := bind_eq_ok.1 h
  cases hset
  have hread : List.Forall₂ (fun s t => t.1 = s.1 ∧ parse s.2 = .ok t.2) sources templates := by
    refine (mapM_eq_ok.1 htemplates).imp ?_
    rintro ⟨key, text⟩ t ht
    dsimp only at ht
    split at ht
    · rename_i nodes hparse
      cases ht
      exact ⟨rfl, hparse⟩
    · cases ht
  exact lookup_of_forall₂ (List.rel_reverse hread) hname

theorem find?_of_lone {dialect : String} {sources : List (String × String)} {set : TemplateSet}
    (h : load dialect sources = .ok set) {name source next : String} {margin : List Char}
    (hname : sources.reverse.lookup name = some source)
    (hlone : LoneInsertion next margin source.toList) :
    set.find? name = some [.insertion next (String.ofList margin)] := by
  obtain ⟨nodes, hfind, hparse⟩ := find?_of_load h hname
  rw [hlone.parse_eq] at hparse
  cases hparse
  exact hfind

/-- Margins of spaces and tabs behind one another are one margin, texts that end with a line feed can
be put behind a margin apart from what follows them, and a text behind a margin has the lines it had,
blank ones as they were and the others behind the margin. So in a set of templates a chain of lone
insertions is rendered as the last template of the chain is, behind all the margins, at any depth
that the chain leaves for it, and in whole whenever its rendering comes to an end, as it does where
no template inserts itself. -/
theorem margins_compose :
    (∀ a b t : String, (∀ c ∈ b.toList, isMargin c = true) →
      Text.indent a (Text.indent b t) = Text.indent (a ++ b) t) ∧
    (∀ a t u : String, t = "" ∨ t.toList.getLast? = some '\n' →
      Text.indent a (t ++ u) = Text.indent a t ++ Text.indent a u) ∧
    (∀ a t : String, (∀ c ∈ a.toList, isMargin c = true) →
      Text.lines (Text.indent a t).toList = (Text.lines t.toList).map fun l =>
        if l = ['\n'] ∨ l = ['\r', '\n'] then l else a.toList ++ l) ∧
    (∀ (dialect : String) (sources : List (String × String)) (set : TemplateSet),
      load dialect sources = .ok set → ∀ name source next margin,
        sources.reverse.lookup name = some source →
        LoneInsertion next margin source.toList →
        set.find? name = some [.insertion next (String.ofList margin)]) ∧
    ∀ (set : TemplateSet) (first last : String) (margins : List String),
      set.Chain first margins last →
        (∀ depth source scopes,
          set.renderWithin (margins.length + (depth + 1)) source first scopes =
            (set.renderWithin (depth + 1) last last scopes).map
              (Text.indent (String.join margins))) ∧
        ∀ d, set.Acyclic ∨ TemplateSet.Ends (set.render first d) →
          set.render first d = (set.render last d).map (Text.indent (String.join margins)) := by
  refine ⟨fun a b t hb => ?_, fun a t u ht => ?_, fun a t ha => ?_, ?_, ?_⟩
  · exact Text.indent_indent a (notMem_of_isMargin hb (by decide))
      (notMem_of_isMargin hb (by decide)) t
  · refine Text.indent_append a (fun c hc => ?_) u
    rcases ht with rfl | ht
    · cases hc
    · exact Option.some.inj ((Option.mem_def.1 hc).symm.trans ht)
  · rw [Text.toList_indent, Text.lines_indentLines (notMem_of_isMargin ha (by decide))]
    refine List.map_congr_left fun l _ => ?_
    simp [Text.indentLine, Text.isBlankLine]
  · exact fun dialect sources set hload name source next margin => find?_of_lone hload
  · intro set first last margins h
    refine ⟨h.renderWithin_eq, fun d hends => h.render_eq ?_⟩
    exact hends.elim (fun hset => TemplateSet.ends_render hset first d) id

/-- Two lone insertions, one behind spaces and one behind a tab, of a text with blank lines. -/
theorem margins_compose_page :
    let sources := [("page", "  \x7b\x7b>frame\x7d\x7d\r\n"), ("frame", "\t\x7b\x7b> body \x7d\x7d"),
      ("body", "a\n\n\x7b\x7bx\x7d\x7d\r\n\r\nb")]
    ∃ set, load "Demo" sources = .ok set ∧ set.Chain "page" ["  ", "\t"] "body" ∧
      set.render "page" [("x", .code "1")] = .ok "  \ta\n\n  \t1\r\n\r\n  \tb" := by
  intro sources
  obtain ⟨-, -, -, hloaded, hchains⟩ := margins_compose
  let set : TemplateSet := ⟨"Demo", [("body", [.text "a\n\n", .value "x", .text "\r\n\r\nb"]),
    ("frame", [.insertion "body" "\t"]), ("page", [.insertion "frame" "  "])]⟩
  have hload : load "Demo" sources = .ok set := by rfl
  have hpage : LoneInsertion "frame" [' ', ' '] "  \x7b\x7b>frame\x7d\x7d\r\n".toList := by
    have hname : Bare "frame".toList := ⟨by rintro c ⟨⟩; rfl, by rintro c ⟨⟩; rfl⟩
    have htag : TagText ">frame".toList .insertion "frame" :=
      @TagText.sigil [] [] "frame".toList [] '>' .insertion rfl (by decide) (by simp) (by simp)
        (by simp) hname (by decide)
    exact @LoneInsertion.intro _ _ ">frame".toList [] ['\r', '\n'] (by simp [isMargin]) (by decide)
      htag (by simp) (by simp)
  have hframe : LoneInsertion "body" ['\t'] "\t\x7b\x7b> body \x7d\x7d".toList := by
    have hname : Bare "body".toList := ⟨by rintro c ⟨⟩; rfl, by rintro c ⟨⟩; rfl⟩
    have hblank : ∀ c ∈ [' '], Text.isBlank c = true := List.forall_mem_singleton.2 rfl
    have htag : TagText "> body ".toList .insertion "body" :=
      @TagText.sigil [] [' '] "body".toList [' '] '>' .insertion rfl (by decide) (by simp) hblank
        hblank hname (by decide)
    exact @LoneInsertion.intro _ _ "> body ".toList [] [] (by simp [isMargin]) (by decide) htag
      (by simp) (by simp)
  have hchain : set.Chain "page" ["  ", "\t"] "body" :=
    .cons (hloaded _ _ _ hload "page" _ _ _ rfl hpage) (by simp [isMargin])
      (.cons (hloaded _ _ _ hload "frame" _ _ _ rfl hframe) (by simp [isMargin]) (.nil rfl))
  have hacyclic : set.Acyclic := by
    refine TemplateSet.acyclic_of_templates
      (fun name => if name = "page" then 2 else if name = "frame" then 1 else 0) ?_
    decide +kernel
  refine ⟨set, hload, hchain, ?_⟩
  rw [(hchains set _ _ _ hchain).2 _ (.inl hacyclic)]
  decide +kernel

end StubForge.Template
