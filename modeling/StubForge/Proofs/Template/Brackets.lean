import StubForge.Proofs.Template.Marks
import StubForge.Proofs.Template.Parts
import StubForge.Proofs.Template.Spelled
import StubForge.Proofs.Text.Brackets

/-! A check that the brackets of templates nest. Of the dictionaries it takes for granted that their
texts are neutral, and that a few keys lead to flags: a section under such a flag may open a bracket
that another section under the same flag closes. -/
namespace StubForge.Template
open Text

/-! ## Dictionaries -/

/-- Keys whose texts may stand inside a literal, and keys that lead to no dictionary and no list. -/
structure Keys where
  plain : List String
  flags : List String

mutual

/-- An entry that fits under its key. -/
def TameEntry (keys : Keys) (key : String) : Entry → Prop
  | .code text => Neutral text ∧ (key ∈ keys.plain → Plain text)
  | .flag _ => True
  | .dict entries => key ∉ keys.flags ∧ TameAll keys entries
  | .list items => key ∉ keys.flags ∧ TameEach keys items

def TameAll (keys : Keys) : List (String × Entry) → Prop
  | [] => True
  | (key, e) :: d => TameEntry keys key e ∧ TameAll keys d

def TameEach (keys : Keys) : List (List (String × Entry)) → Prop
  | [] => True
  | d :: items => TameAll keys d ∧ TameEach keys items

end

section
variable {keys : Keys}

theorem tameEach_iff {items : List Dictionary} :
    TameEach keys items ↔ ∀ d ∈ items, TameAll keys d := by
  induction items with
  | nil => simp [TameEach]
  | cons d items ih => simp [TameEach, ih]

@[simp] theorem tameAll_append {d e : Dictionary} :
    TameAll keys (d ++ e) ↔ TameAll keys d ∧ TameAll keys e := by
  induction d with
  | nil => simp [TameAll]
  | cons p d ih => simp [TameAll, ih, and_assoc]

theorem TameAll.insert_flag {d : Dictionary} (h : TameAll keys d) (key : String) (value : Bool) :
    TameAll keys (d.insert key (.flag value)) := by
  induction d with
  | nil => exact ⟨trivial, trivial⟩
  | cons p d ih =>
    obtain ⟨k, e⟩ := p
    obtain ⟨he, hd⟩ := h
    rw [Dictionary.insert]
    split
    · exact ⟨trivial, hd⟩
    · exact ⟨he, ih hd⟩

theorem TameEach.markEnds {items : List Dictionary} (h : TameEach keys items) :
    TameEach keys (Dictionary.markEnds items) := by
  have hmark (first : Bool) : TameEach keys (Dictionary.mark first items) := by
    induction items generalizing first with
    | nil => trivial
    | cons d items ih => exact ⟨(h.1.insert_flag _ _).insert_flag _ _, ih h.2 false⟩
  exact hmark true

theorem TameAll.get? {d : Dictionary} (h : TameAll keys d) {key : String} {e : Entry}
    (he : d.get? key = some e) : TameEntry keys key e := by
  induction d with
  | nil => cases he
  | cons p d ih =>
    obtain ⟨k, f⟩ := p
    rw [Dictionary.get?_cons] at he
    split at he
    · rename_i hkey
      cases he
      exact hkey ▸ h.1
    · exact ih h.2 he

theorem tameEntry_of_resolve {scopes : List Dictionary} (h : ∀ d ∈ scopes, TameAll keys d)
    {key : String} {e : Entry} (he : resolve scopes key = some e) : TameEntry keys key e := by
  obtain ⟨d, hd, he⟩ := List.exists_of_findSome?_eq_some he
  exact (h d hd).get? he

/-- A section under the key of a flag is rendered once or not at all, and in the same scopes. -/
theorem renderNodes_of_flag {scopes : List Dictionary} (h : ∀ d ∈ scopes, TameAll keys d)
    {key : String} (hkey : key ∈ keys.flags) {inverted : Bool} {insert : String → Renderer}
    {template text : String} {children : List Node}
    (hrender : renderNode insert template scopes (.block key inverted children) = .ok text) :
    (holds (resolve scopes key) = inverted ∧ text = "") ∨
      (holds (resolve scopes key) = !inverted ∧
        renderNodes insert template scopes children = .ok text) := by
  cases inverted with
  | true =>
    rw [renderNode] at hrender
    split at hrender
    · rename_i hholds
      cases hrender
      exact .inl ⟨hholds, rfl⟩
    · rename_i hholds
      exact .inr ⟨Bool.eq_false_iff.2 hholds, hrender⟩
  | false =>
    have hrepeat : repetitions scopes (resolve scopes key) =
        if holds (resolve scopes key) then [scopes] else [] := by
      cases he : resolve scopes key with
      | none => rfl
      | some e =>
        have htame := tameEntry_of_resolve h he
        cases e with
        | dict d => exact absurd hkey htame.1
        | list items => exact absurd hkey htame.1
        | _ => rfl
    rw [renderNode, hrepeat] at hrender
    split at hrender
    · rename_i hholds
      rw [List.map_singleton, concat_singleton] at hrender
      exact .inr ⟨hholds, hrender⟩
    · rename_i hholds
      cases hrender
      exact .inl ⟨Bool.eq_false_iff.2 hholds, rfl⟩

/-- Each text of a section comes from scopes whose dictionaries are tame too. -/
theorem tame_of_repetitions {scopes inner : List Dictionary} (h : ∀ d ∈ scopes, TameAll keys d)
    {key : String} (hi : inner ∈ repetitions scopes (resolve scopes key)) :
    ∀ d ∈ inner, TameAll keys d := by
  have hsame {b : Bool} (hi : inner ∈ if b then [scopes] else []) : inner = scopes := by
    cases b with
    | false => cases hi
    | true => exact List.mem_singleton.1 hi
  cases he : resolve scopes key with
  | none =>
    rw [he] at hi
    cases hi
  | some e =>
    have htame := tameEntry_of_resolve h he
    rw [he] at hi
    cases e with
    | dict d =>
      rw [List.mem_singleton.1 hi]
      exact List.forall_mem_cons.2 ⟨htame.2, h⟩
    | list items =>
      obtain ⟨d, hd, rfl⟩ := List.mem_map.1 hi
      exact List.forall_mem_cons.2 ⟨tameEach_iff.1 htame.2 d hd, h⟩
    | _ => exact hsame hi ▸ h

end

/-! ## The check -/

/-- One way through a template: what it takes the flags to be, and how far the scan has come. -/
structure Branch where
  facts : List (String × Bool)
  scan : Scan

/-- Whether all ways lead back to the scan; none is a way on which a scan stops. -/
def returns (s : Scan) (ways : List (Option Branch)) : Bool :=
  ways.all fun
    | some b => b.scan = s
    | none => false

mutual

/-- The ways through a node. Where it is open whether a section under a flag is rendered and that
matters to the brackets, there is one way for each; every other section has to leave the scan as it
is, however often it is rendered. -/
def follow (keys : Keys) (insert : String → Scan → Bool) : Spelled → Branch → List (Option Branch)
  | .text chars, b => [(b.scan.run chars).map (⟨b.facts, ·⟩)]
  | .value key, b =>
    if b.scan.position = .outside ∨ b.scan.position = .literal ∧ key ∈ keys.plain then [some b]
    else [none]
  | .block key inverted children, b =>
    match b.facts.lookup key with
    | some value => if value = inverted then [some b] else followAll keys insert children b
    | none =>
      if key ∈ keys.flags then
        let ways := followAll keys insert children ⟨(key, !inverted) :: b.facts, b.scan⟩
        if returns b.scan ways then [some b]
        else some ⟨(key, inverted) :: b.facts, b.scan⟩ :: ways
      else if returns b.scan (followAll keys insert children ⟨[], b.scan⟩) then [some b]
      else [none]
  | .insertion name margin, b =>
    if margin.all (!isMark ·) ∧ b.scan.position ≠ .escaped ∧ insert name b.scan then [some b]
    else [none]

def followAll (keys : Keys) (insert : String → Scan → Bool) :
    List Spelled → Branch → List (Option Branch)
  | [], b => [some b]
  | n :: r, b =>
    (follow keys insert n b).flatMap fun way =>
      match way with
      | some b => followAll keys insert r b
      | none => [none]

end

/-- Whether the template `name`, with insertions at most `depth` deep, leaves the scan as it is. -/
def preserves (keys : Keys) (templates : List (String × List Spelled)) :
    Nat → String → Scan → Bool
  | 0, _, _ => false
  | depth + 1, name, s =>
    match templates.lookup name with
    | none => false
    | some nodes => returns s (followAll keys (preserves keys templates depth) nodes ⟨[], s⟩)

/-! ## Soundness -/

/-- A way that a rendering takes: what it takes the flags to be is what they are in the scopes. -/
def Branch.TrueIn (keys : Keys) (scopes : List Dictionary) (b : Branch) : Prop :=
  ∀ p ∈ b.facts, p.1 ∈ keys.flags ∧ holds (resolve scopes p.1) = p.2

theorem Branch.TrueIn.cons {keys : Keys} {scopes : List Dictionary} {b : Branch}
    (h : b.TrueIn keys scopes) {key : String} (hkey : key ∈ keys.flags) {value : Bool}
    (hvalue : holds (resolve scopes key) = value) (s : Scan) :
    TrueIn keys scopes ⟨(key, value) :: b.facts, s⟩ :=
  List.forall_mem_cons.2 ⟨⟨hkey, hvalue⟩, h⟩

/-- Texts that each leave a scan as it is do so one after the other. -/
theorem run_join {s : Scan} {texts : List String} (h : ∀ t ∈ texts, s.run t.toList = some s) :
    s.run (String.join texts).toList = some s := by
  induction texts with
  | nil => rw [String.join_nil, String.toList_empty, Scan.run_nil]
  | cons t texts ih =>
    obtain ⟨ht, htexts⟩ := List.forall_mem_cons.1 h
    rw [String.join_cons, String.toList_append, Scan.run_append, ht, Option.bind_some, ih htexts]

/-- A text that is interpolated leaves the scan as it is. -/
theorem run_of_value {keys : Keys} {scopes : List Dictionary} (h : ∀ d ∈ scopes, TameAll keys d)
    {insert : String → Renderer} {template key text : String} {s : Scan}
    (hs : s.position = .outside ∨ s.position = .literal ∧ key ∈ keys.plain)
    (hrender : renderNode insert template scopes (.value key) = .ok text) :
    s.run text.toList = some s := by
  obtain ⟨pending, position⟩ := s
  have hplain (ht : Plain text) : Scan.run ⟨pending, position⟩ text.toList =
      some ⟨pending, position⟩ := by
    refine Scan.run_of_plain ?_ ht
    rcases hs with rfl | ⟨rfl, -⟩ <;> simp
  rw [renderNode] at hrender
  cases he : resolve scopes key with
  | none => simp [he] at hrender
  | some e =>
    have htame := tameEntry_of_resolve h he
    rw [he] at hrender
    cases e with
    | code t =>
      cases hrender
      rcases hs with rfl | ⟨rfl, hkey⟩
      · exact htame.1.run pending
      · exact hplain (htame.2 hkey)
    | flag value =>
      cases hrender
      apply hplain
      cases value <;> exact plain_ofList rfl
    | _ => cases hrender

theorem returns_iff {s : Scan} {ways : List (Option Branch)} :
    returns s ways = true ↔ none ∉ ways ∧ ∀ b, some b ∈ ways → b.scan = s := by
  rw [returns, List.all_eq_true]
  constructor
  · intro h
    exact ⟨fun hnone => absurd (h none hnone) (by simp), fun b hb => by simpa using h _ hb⟩
  · rintro ⟨hnone, hsome⟩ way hway
    cases way with
    | none => exact absurd hway hnone
    | some b => simpa using hsome b hway

section
variable {keys : Keys} {insert : String → Renderer} {check : String → Scan → Bool}

/-- A rendering takes one of the ways. -/
def Takes (keys : Keys) (scopes : List Dictionary) (s : Scan) (ways : List (Option Branch))
    (text : String) : Prop :=
  ∃ b, some b ∈ ways ∧ b.TrueIn keys scopes ∧ s.run text.toList = some b.scan

theorem Takes.run {scopes : List Dictionary} {s : Scan} {ways : List (Option Branch)}
    {text : String} (h : Takes keys scopes s ways text) (hreturns : returns s ways = true) :
    s.run text.toList = some s := by
  obtain ⟨b, hb, -, hrun⟩ := h
  rw [hrun, (returns_iff.1 hreturns).2 b hb]

theorem takes_self {scopes : List Dictionary} {b : Branch} (hb : b.TrueIn keys scopes)
    {text : String} (h : b.scan.run text.toList = some b.scan) :
    Takes keys scopes b.scan [some b] text := ⟨b, List.mem_cons_self, hb, h⟩

theorem run_empty (s : Scan) : s.run "".toList = some s := by
  rw [String.toList_empty, Scan.run_nil]

mutual

/-- In whatever tame dictionaries a node is rendered, the rendering takes one of the ways through
the node, if none of them stops. -/
theorem takes_follow
    (hinsert : ∀ name s, check name s = true → ∀ source scopes text,
      (∀ d ∈ scopes, TameAll keys d) → insert source name scopes = .ok text →
      s.run text.toList = some s) (template : String) :
    ∀ (n : Spelled) {b : Branch} {scopes : List Dictionary} {text : String},
      (∀ d ∈ scopes, TameAll keys d) → b.TrueIn keys scopes → none ∉ follow keys check n b →
      renderNode insert template scopes n.node = .ok text →
      Takes keys scopes b.scan (follow keys check n b) text
  | .text chars, b, scopes, text, _, hb, hnone, hrender => by
    cases hrender
    rw [follow] at hnone ⊢
    cases hrun : b.scan.run chars with
    | none => simp [hrun] at hnone
    | some s => exact ⟨⟨b.facts, s⟩, List.mem_cons_self, hb, by rw [String.toList_ofList, hrun]⟩
  | .value key, b, scopes, text, hscopes, hb, hnone, hrender => by
    rw [follow] at hnone ⊢
    split at hnone
    · rename_i hposition
      rw [if_pos hposition]
      exact takes_self hb (run_of_value hscopes hposition hrender)
    · simp at hnone
  | .block key inverted children, b, scopes, text, hscopes, hb, hnone, hrender => by
    rw [Spelled.node] at hrender
    rw [follow] at hnone ⊢
    cases hlookup : b.facts.lookup key with
    | some value =>
      obtain ⟨before, after, hsplit, -⟩ := List.lookup_eq_some_iff.1 hlookup
      obtain ⟨hkey, hvalue⟩ := hb (key, value) (by simp [hsplit])
      replace hvalue : holds (resolve scopes key) = value := hvalue
      simp only [hlookup] at hnone ⊢
      obtain ⟨hholds, rfl⟩ | ⟨hholds, hrender⟩ := renderNodes_of_flag hscopes hkey hrender
      · rw [if_pos (hvalue.symm.trans hholds)]
        exact takes_self hb (run_empty _)
      · have hne : value ≠ inverted := by rw [← hvalue, hholds]; simp
        rw [if_neg hne] at hnone ⊢
        exact takes_followAll hinsert template children hscopes hb hnone hrender
    | none =>
      simp only [hlookup] at hnone ⊢
      by_cases hkey : key ∈ keys.flags
      · simp only [if_pos hkey] at hnone ⊢
        -- If it is rendered, the way of its body is taken, and else the scan is where it was.
        have hways (hopen : none ∉ followAll keys check children
              ⟨(key, !inverted) :: b.facts, b.scan⟩) :
            (holds (resolve scopes key) = inverted ∧ text = "") ∨
            Takes keys scopes b.scan
              (followAll keys check children ⟨(key, !inverted) :: b.facts, b.scan⟩) text := by
          obtain hempty | ⟨hholds, hrender⟩ := renderNodes_of_flag hscopes hkey hrender
          · exact .inl hempty
          · exact .inr (takes_followAll hinsert template children hscopes
              (hb.cons hkey hholds b.scan) hopen hrender)
        split at hnone
        · rename_i hreturns
          rw [if_pos hreturns]
          obtain ⟨-, rfl⟩ | htakes := hways (returns_iff.1 hreturns).1
          · exact takes_self hb (run_empty _)
          · exact takes_self hb (htakes.run hreturns)
        · rename_i hreturns
          rw [if_neg hreturns]
          rw [List.mem_cons, not_or] at hnone
          obtain ⟨hholds, rfl⟩ | ⟨taken, htaken, htrue, hrun⟩ := hways hnone.2
          · exact ⟨_, List.mem_cons_self, hb.cons hkey hholds b.scan, run_empty _⟩
          · exact ⟨taken, List.mem_cons_of_mem _ htaken, htrue, hrun⟩
      · rw [if_neg hkey] at hnone ⊢
        split at hnone
        · rename_i hreturns
          rw [if_pos hreturns]
          have hbody {inner : List Dictionary} (hinner : ∀ d ∈ inner, TameAll keys d) {t : String}
              (ht : renderNodes insert template inner (Spelled.nodes children) = .ok t) :
              b.scan.run t.toList = some b.scan :=
            (takes_followAll hinsert template children (b := ⟨[], b.scan⟩) hinner
              (List.forall_mem_nil _)
              (returns_iff.1 hreturns).1 ht).run hreturns
          refine takes_self hb ?_
          cases inverted with
          | true =>
            rw [renderNode] at hrender
            split at hrender
            · cases hrender
              exact run_empty _
            · exact hbody hscopes hrender
          | false =>
            rw [renderNode, concat_eq_ok] at hrender
            obtain ⟨texts, htexts, rfl⟩ := hrender
            refine run_join (forall_mem_of_forall₂ htexts ?_)
            rintro part hpart t rfl
            obtain ⟨inner, hinner, ht⟩ := List.mem_map.1 hpart
            exact hbody (tame_of_repetitions hscopes hinner) ht
        · simp at hnone
  | .insertion name margin, b, scopes, text, hscopes, hb, hnone, hrender => by
    rw [follow] at hnone ⊢
    split at hnone
    · rename_i hcheck
      rw [if_pos hcheck]
      obtain ⟨hmargin, hposition, hcheck⟩ := hcheck
      rw [Spelled.node, renderNode] at hrender
      obtain ⟨inserted, hinserted, rfl⟩ := map_eq_ok.1 hrender
      refine takes_self hb ?_
      rw [toList_indent, String.toList_ofList, Scan.run_indentLines ?_ hposition]
      · exact hinsert name b.scan hcheck template scopes inserted hscopes hinserted
      · simpa using hmargin
    · simp at hnone

theorem takes_followAll
    (hinsert : ∀ name s, check name s = true → ∀ source scopes text,
      (∀ d ∈ scopes, TameAll keys d) → insert source name scopes = .ok text →
      s.run text.toList = some s) (template : String) :
    ∀ (nodes : List Spelled) {b : Branch} {scopes : List Dictionary} {text : String},
      (∀ d ∈ scopes, TameAll keys d) → b.TrueIn keys scopes → none ∉ followAll keys check nodes b →
      renderNodes insert template scopes (Spelled.nodes nodes) = .ok text →
      Takes keys scopes b.scan (followAll keys check nodes b) text
  | [], b, scopes, text, _, hb, _, hrender => by
    cases hrender
    exact takes_self hb (run_empty _)
  | n :: r, b, scopes, text, hscopes, hb, hnone, hrender => by
    rw [followAll] at hnone ⊢
    rw [List.mem_flatMap, not_exists] at hnone
    rw [Spelled.nodes, renderNodes_cons_eq_ok] at hrender
    obtain ⟨head, tail, hhead, htail, rfl⟩ := hrender
    have hfirst : none ∉ follow keys check n b := fun h => hnone none ⟨h, List.mem_cons_self⟩
    obtain ⟨first, hmem, htrue, hrun⟩ := takes_follow hinsert template n hscopes hb hfirst hhead
    have hrest : none ∉ followAll keys check r first := fun h => hnone (some first) ⟨hmem, h⟩
    obtain ⟨last, hlast, hlasttrue, hlastrun⟩ :=
      takes_followAll hinsert template r hscopes htrue hrest htail
    refine ⟨last, List.mem_flatMap.2 ⟨some first, hmem, hlast⟩, hlasttrue, ?_⟩
    rw [String.toList_append, Scan.run_append, hrun, Option.bind_some, hlastrun]

end

end

/-- A template that passes the check leaves the scan as it is, in whatever tame dictionaries it is
rendered. -/
theorem run_of_preserves {keys : Keys} {set : TemplateSet}
    {spelled : List (String × List Spelled)} (hspelled : Spelled.templates spelled = set.templates)
    {depth : Nat} {name : String} {s : Scan} (h : preserves keys spelled depth name s = true)
    {limit : Nat} {source : String} {scopes : List Dictionary} {text : String}
    (hscopes : ∀ d ∈ scopes, TameAll keys d)
    (hrender : set.renderWithin limit source name scopes = .ok text) :
    s.run text.toList = some s := by
  induction depth generalizing limit name s source scopes text with
  | zero => cases h
  | succ depth ih =>
    cases limit with
    | zero => cases hrender
    | succ limit =>
      have hfind : set.find? name = (spelled.lookup name).map Spelled.nodes := by
        rw [TemplateSet.find?, ← hspelled, Spelled.lookup_templates]
      rw [preserves] at h
      rw [TemplateSet.renderWithin, hfind] at hrender
      cases hlookup : spelled.lookup name with
      | none => simp [hlookup] at h
      | some nodes =>
        simp only [hlookup, Option.map_some] at h hrender
        have hinsert (name : String) (s : Scan) (hcheck : preserves keys spelled depth name s)
            (source : String) (scopes : List Dictionary) (text : String)
            (hscopes : ∀ d ∈ scopes, TameAll keys d)
            (hrender : set.renderWithin limit source name scopes = .ok text) :
            s.run text.toList = some s := ih hcheck hscopes hrender
        have htrue : Branch.TrueIn keys scopes ⟨[], s⟩ := List.forall_mem_nil _
        exact (takes_followAll hinsert name nodes hscopes htrue (returns_iff.1 h).1 hrender).run h

end StubForge.Template
