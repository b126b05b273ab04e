import StubForge.Proofs.Template.Marks
import StubForge.Proofs.Template.Source

/-! Sections of a template: when they nest, and the tree they form. A source is a template exactly
if it is cut into parts and its sections nest, and the tree written back gives the tokens that are
left of the source, each in its place. -/
namespace StubForge.Template

/-! ## Nesting -/

/-- The begin or the end of a section. -/
inductive Boundary
  | opens (name : String)
  | closes (name : String)

def Token.boundary? : Token → Option Boundary
  | .tag .opening name _ | .tag .inverted name _ => some (.opens name)
  | .tag .closing name _ => some (.closes name)
  | _ => none

def boundaries (ts : List Token) : List Boundary := ts.filterMap Token.boundary?

/-- Each section that begins has an end of its own name, and what is between them nests. -/
inductive Nested : List Boundary → Prop
  | nil : Nested []
  | enclose {name : String} {inner rest : List Boundary} (hinner : Nested inner)
      (hrest : Nested rest) : Nested (.opens name :: (inner ++ .closes name :: rest))

/-- Nested apart from the ends of some sections that are open already, the innermost first. -/
def Closes : List String → List Boundary → Prop
  | [], bs => Nested bs
  | name :: outer, bs =>
    ∃ inner rest, Nested inner ∧ bs = inner ++ .closes name :: rest ∧ Closes outer rest

theorem closes_nil_iff {names : List String} : Closes names [] ↔ names = [] := by
  cases names with
  | nil => exact ⟨fun _ => rfl, fun _ => .nil⟩
  | cons name outer => simp [Closes]

theorem not_nested_closes {name : String} {bs : List Boundary} : ¬ Nested (.closes name :: bs) :=
  nofun

theorem exists_of_nested_opens {name : String} {bs : List Boundary}
    (h : Nested (.opens name :: bs)) :
    ∃ inner rest, Nested inner ∧ Nested rest ∧ bs = inner ++ .closes name :: rest := by
  cases h with
  | enclose hinner hrest => exact ⟨_, _, hinner, hrest, rfl⟩

/-- The end of a section belongs to the innermost one that is open. -/
theorem closes_closes_iff {names : List String} {name : String} {bs : List Boundary} :
    Closes names (.closes name :: bs) ↔ ∃ outer, names = name :: outer ∧ Closes outer bs := by
  constructor
  · intro h
    cases names with
    | nil => exact absurd h not_nested_closes
    | cons first outer =>
      obtain ⟨inner, rest, hinner, hbs, houter⟩ := h
      cases hinner with
      | nil =>
        cases hbs
        exact ⟨outer, rfl, houter⟩
      | enclose => cases hbs
  · rintro ⟨outer, rfl, h⟩
    exact ⟨[], bs, .nil, rfl, h⟩

/-- A section that begins has to end before those that are open already. -/
theorem closes_opens_iff {names : List String} {name : String} {bs : List Boundary} :
    Closes names (.opens name :: bs) ↔ Closes (name :: names) bs := by
  constructor
  · intro h
    cases names with
    | nil =>
      obtain ⟨inner, rest, hinner, hrest, rfl⟩ := exists_of_nested_opens h
      exact ⟨inner, rest, hinner, rfl, hrest⟩
    | cons first outer =>
      obtain ⟨inner, rest, hinner, hbs, houter⟩ := h
      cases hinner with
      | nil => cases hbs
      | @enclose opened within after hwithin hafter =>
        cases hbs
        exact ⟨within, after ++ .closes first :: rest, hwithin, by simp,
          after, rest, hafter, rfl, houter⟩
  · rintro ⟨inner, rest, hinner, rfl, hrest⟩
    cases names with
    | nil => exact .enclose hinner hrest
    | cons first outer =>
      obtain ⟨between, after, hbetween, rfl, houter⟩ := hrest
      exact ⟨.opens name :: (inner ++ .closes name :: between), after, .enclose hinner hbetween,
        by simp, houter⟩

/-- Tokens make a tree exactly if their sections nest. -/
theorem assemble_ok_iff {sections : List OpenSection} {here : List Node} {ts : List Token} :
    (∃ nodes, assemble sections here ts = .ok nodes) ↔
      Closes (sections.map (·.key)) (boundaries ts) := by
  induction ts generalizing sections here with
  | nil =>
    rw [boundaries, List.filterMap_nil, closes_nil_iff, List.map_eq_nil_iff]
    cases sections <;> simp [assemble]
  | cons t ts ih =>
    cases t with
    | text t => exact ih
    | tag kind name margin =>
      cases kind with
      | opening => exact ih.trans closes_opens_iff.symm
      | inverted => exact ih.trans closes_opens_iff.symm
      | closing =>
        refine Iff.trans ?_ closes_closes_iff.symm
        cases sections with
        | nil => simp [assemble]
        | cons s outer =>
          by_cases hkey : s.key = name
          · simpa [assemble, hkey, boundaries] using ih
          · simp [assemble, hkey]
      | _ => exact ih

/-! ## Writing back -/

mutual

/-- The tokens that a node stands for. -/
def Node.write : Node → List Token
  | .text t => [.text t.toList]
  | .value key => [.tag .value key []]
  | .block key inverted children =>
    .tag (if inverted then .inverted else .opening) key [] ::
      (Node.writeAll children ++ [.tag .closing key []])
  | .insertion name margin => [.tag .insertion name margin.toList]

def Node.writeAll : List Node → List Token
  | [] => []
  | n :: r => n.write ++ Node.writeAll r

end

open Node (write writeAll)

theorem writeAll_append (ns ms : List Node) : writeAll (ns ++ ms) = writeAll ns ++ writeAll ms := by
  induction ns with
  | nil => rfl
  | cons n ns ih => rw [List.cons_append, writeAll, ih, writeAll, List.append_assoc]

theorem writeAll_concat (ns : List Node) (n : Node) :
    writeAll (ns ++ [n]) = writeAll ns ++ n.write := by
  rw [writeAll_append, writeAll, writeAll, List.append_nil]

/-- A token that leaves something in the tree. -/
def Token.isVisible : Token → Bool
  | .text t => t ≠ []
  | .tag kind _ _ => kind ≠ .comment

/-- Only an insertion has a margin. -/
def Token.HasOwnMargin : Token → Prop
  | .text _ => True
  | .tag kind _ margin => kind = .insertion ∨ margin = []

/-- What has been read when some sections are open: the begin of each behind what stands before it. -/
def writeOpen : List OpenSection → List Token
  | [] => []
  | s :: outer => writeOpen outer ++ writeAll s.before.reverse ++
      [.tag (if s.inverted then .inverted else .opening) s.key []]

/-- The tree of tokens is written as the visible ones among them. -/
theorem writeAll_of_assemble {sections : List OpenSection} {here nodes : List Node}
    {ts : List Token} (hts : ∀ t ∈ ts, t.HasOwnMargin)
    (h : assemble sections here ts = .ok nodes) :
    writeAll nodes =
      writeOpen sections ++ writeAll here.reverse ++ ts.filter Token.isVisible := by
  induction ts generalizing sections here with
  | nil =>
    cases sections with
    | nil =>
      cases h
      simp [writeOpen]
    | cons s outer => cases h
  | cons t ts ih =>
    obtain ⟨ht, hrest⟩ := List.forall_mem_cons.1 hts
    cases t with
    | text t =>
      rw [assemble] at h
      rw [ih hrest h]
      by_cases hne : t = []
      · simp [hne, Token.isVisible]
      · simp [hne, Token.isVisible, writeAll_concat, Node.write]
    | tag kind name margin =>
      have hmargin (hkind : kind ≠ .insertion) : margin = [] := ht.resolve_left hkind
      cases kind with
      | comment =>
        rw [ih hrest h]
        simp [Token.isVisible]
      | value =>
        rw [ih hrest h, hmargin (by decide)]
        simp [Token.isVisible, writeAll_concat, Node.write]
      | insertion =>
        rw [ih hrest h]
        simp [Token.isVisible, writeAll_concat, Node.write]
      | opening =>
        rw [ih hrest h, hmargin (by decide)]
        simp [Token.isVisible, writeOpen, writeAll]
      | inverted =>
        rw [ih hrest h, hmargin (by decide)]
        simp [Token.isVisible, writeOpen, writeAll]
      | closing =>
        rw [hmargin (by decide)]
        cases sections with
        | nil => cases h
        | cons s outer =>
          rw [assemble] at h
          split at h
          · rename_i hkey
            rw [ih hrest h]
            simp [Token.isVisible, writeOpen, writeAll_concat, Node.write, hkey]
          · cases h

/-- Tokens that are not visible change nothing. -/
theorem assemble_visible (sections : List OpenSection) (here : List Node) (ts : List Token) :
    assemble sections here (ts.filter Token.isVisible) = assemble sections here ts := by
  induction ts generalizing sections here with
  | nil => rfl
  | cons t ts ih =>
    cases t with
    | text t =>
      by_cases hne : t = []
      · simp [Token.isVisible, hne, assemble, ih]
      · simp [Token.isVisible, hne, assemble, ih]
    | tag kind name margin =>
      cases kind with
      | closing =>
        cases sections with
        | nil => simp [Token.isVisible, assemble]
        | cons s outer => simp [Token.isVisible, assemble, ih]
      | _ => simp [Token.isVisible, assemble, ih]

mutual

/-- The tokens of a node are read back as the node. -/
theorem assemble_write (n : Node) (sections : List OpenSection) (here : List Node)
    (ts : List Token) (h : ∀ t ∈ n.write, t.isVisible = true) :
    assemble sections here (n.write ++ ts) = assemble sections (n :: here) ts := by
  cases n with
  | text text =>
    have hne : text.toList ≠ [] := by simpa [Node.write, Token.isVisible] using h
    rw [Node.write, List.singleton_append, assemble, if_neg hne, String.ofList_toList]
  | value key => rfl
  | block key inverted children =>
    have hchildren : ∀ t ∈ writeAll children, t.isVisible = true := fun t ht =>
      h t (by simp [Node.write, ht])
    cases inverted <;>
      simp [Node.write, assemble, assemble_writeAll children _ _ _ hchildren]
  | insertion name margin =>
    rw [Node.write, List.singleton_append, assemble, String.ofList_toList]

theorem assemble_writeAll (nodes : List Node) (sections : List OpenSection) (here : List Node)
    (ts : List Token) (h : ∀ t ∈ writeAll nodes, t.isVisible = true) :
    assemble sections here (writeAll nodes ++ ts) =
      assemble sections (nodes.reverse ++ here) ts := by
  cases nodes with
  | nil => rfl
  | cons n nodes =>
    rw [writeAll, List.forall_mem_append] at h
    rw [writeAll, List.append_assoc, assemble_write n _ _ _ h.1,
      assemble_writeAll nodes _ _ _ h.2, List.reverse_cons, List.append_assoc,
      List.singleton_append]

end

/-- The tree of tokens is the one that is written as the visible ones among them. -/
theorem assemble_eq_ok_iff {ts : List Token} (hts : ∀ t ∈ ts, t.HasOwnMargin)
    {nodes : List Node} :
    assemble [] [] ts = .ok nodes ↔ writeAll nodes = ts.filter Token.isVisible := by
  constructor
  · intro h
    exact writeAll_of_assemble hts h
  · intro h
    have hvisible : ∀ t ∈ writeAll nodes, t.isVisible = true := by
      rw [h]
      exact fun t ht => (List.mem_filter.1 ht).2
    have hread := assemble_writeAll nodes [] [] [] hvisible
    rw [List.append_nil, List.append_nil, h, assemble_visible] at hread
    rw [hread, assemble, List.reverse_reverse]

/-! ## Templates -/

theorem map_fst_markAlone (before ts : List Token) : (markAlone before ts).map Prod.fst = ts := by
  induction ts generalizing before with
  | nil => rfl
  | cons t ts ih => rw [markAlone.eq_def, List.map_cons, ih]

/-- Whether the first of the tokens is a tag alone on its line. -/
def leadsLone : List (Token × Bool) → Bool
  | (_, true) :: _ => true
  | _ => false

theorem takeLines_text (afterLone : Bool) (held t : List Char) (alone : Bool)
    (marks : List (Token × Bool)) :
    takeLines afterLone held ((.text t, alone) :: marks) =
      let kept := if afterLone then dropLineEnd t else t
      if leadsLone marks then .text (withoutMargin kept) :: takeLines false (margin kept) marks
      else .text kept :: takeLines false [] marks := by
  cases marks with
  | nil => rfl
  | cons mark marks =>
    obtain ⟨u, next⟩ := mark
    cases next <;> rfl

/-- Of a text that loses lines a text is left. -/
theorem exists_takeLines_text (afterLone : Bool) (held t : List Char) (alone : Bool)
    (marks : List (Token × Bool)) :
    ∃ kept held', takeLines afterLone held ((.text t, alone) :: marks) =
      .text kept :: takeLines false held' marks := by
  rw [takeLines_text]
  dsimp only
  split <;> exact ⟨_, _, rfl⟩

/-- No section is taken away with a line. -/
theorem boundaries_takeLines (afterLone : Bool) (held : List Char) (marks : List (Token × Bool)) :
    boundaries (takeLines afterLone held marks) = boundaries (marks.map Prod.fst) := by
  induction marks generalizing afterLone held with
  | nil => rfl
  | cons mark marks ih =>
    obtain ⟨t, alone⟩ := mark
    cases t with
    | text t =>
      obtain ⟨kept, held', hkept⟩ := exists_takeLines_text afterLone held t alone marks
      rw [hkept]
      exact ih false held'
    | tag kind name m =>
      rw [takeLines, boundaries, List.map_cons, boundaries, List.filterMap_cons,
        List.filterMap_cons]
      have hrest := ih alone []
      rw [boundaries, boundaries] at hrest
      rw [hrest]
      cases kind <;> rfl

/-- Lines that are taken away leave a margin to insertions only. -/
theorem hasOwnMargin_takeLines {marks : List (Token × Bool)}
    (h : ∀ t ∈ marks.map Prod.fst, t.HasOwnMargin) (afterLone : Bool) (held : List Char) :
    ∀ t ∈ takeLines afterLone held marks, t.HasOwnMargin := by
  induction marks generalizing afterLone held with
  | nil => exact h
  | cons mark marks ih =>
    obtain ⟨t, alone⟩ := mark
    obtain ⟨ht, hrest⟩ := List.forall_mem_cons.1 h
    cases t with
    | text t =>
      obtain ⟨kept, held', hkept⟩ := exists_takeLines_text afterLone held t alone marks
      rw [hkept]
      exact List.forall_mem_cons.2 ⟨trivial, ih hrest false held'⟩
    | tag kind name m =>
      rw [takeLines]
      refine List.forall_mem_cons.2 ⟨?_, ih hrest alone []⟩
      by_cases hkind : kind = .insertion
      · exact .inl hkind
      · rw [if_neg (by simp [hkind])]
        exact ht

theorem Part.Denotes.hasOwnMargin {p : Part} {t : Token} (h : p.Denotes t) : t.HasOwnMargin := by
  cases h with
  | text => trivial
  | tag => exact .inr rfl

theorem tokens_eq_ok_iff {source : String} {ts : List Token} :
    tokens source = .ok ts ↔ ∃ parts raw, Cut source.toList parts ∧
      List.Forall₂ Part.Denotes parts raw ∧ ts = takeLines false [] (markAlone [] raw) := by
  rw [tokens, map_eq_ok]
  constructor
  · rintro ⟨raw, hraw, rfl⟩
    obtain ⟨parts, hcut, hdenotes⟩ := scanText_eq_ok_iff.1 hraw
    exact ⟨parts, raw, hcut, hdenotes, rfl⟩
  · rintro ⟨parts, raw, hcut, hdenotes, rfl⟩
    exact ⟨raw, scanText_eq_ok_iff.2 ⟨parts, hcut, hdenotes⟩, rfl⟩

/-- Only insertions of a source have a margin. -/
theorem hasOwnMargin_of_tokens {source : String} {ts : List Token} (h : tokens source = .ok ts) :
    ∀ t ∈ ts, t.HasOwnMargin := by
  obtain ⟨parts, raw, -, hdenotes, rfl⟩ := tokens_eq_ok_iff.1 h
  refine hasOwnMargin_takeLines ?_ false []
  rw [map_fst_markAlone]
  exact forall_mem_of_forall₂ hdenotes fun p _ t ht => ht.hasOwnMargin

theorem parse_eq_ok {source : String} {nodes : List Node} :
    parse source = .ok nodes ↔ ∃ ts, tokens source = .ok ts ∧ assemble [] [] ts = .ok nodes :=
  bind_eq_ok

/-- A source is a template exactly if it is cut into texts and tags that nest, and its tree is the
one that is written as the visible tokens of the source. -/
theorem parse_accepts (source : String) :
    ((∃ nodes, parse source = .ok nodes) ↔
      ∃ parts ts, Cut source.toList parts ∧ List.Forall₂ Part.Denotes parts ts ∧
        Nested (boundaries ts)) ∧
    ∀ nodes, parse source = .ok nodes ↔
      ∃ ts, tokens source = .ok ts ∧ writeAll nodes = ts.filter Token.isVisible := by
  constructor
  · constructor
    · rintro ⟨nodes, h⟩
      obtain ⟨ts, hts, hnodes⟩ := parse_eq_ok.1 h
      obtain ⟨parts, raw, hcut, hdenotes, rfl⟩ := tokens_eq_ok_iff.1 hts
      have hnested : Nested _ := assemble_ok_iff.1 ⟨nodes, hnodes⟩
      rw [boundaries_takeLines, map_fst_markAlone] at hnested
      exact ⟨parts, raw, hcut, hdenotes, hnested⟩
    · rintro ⟨parts, raw, hcut, hdenotes, hnested⟩
      rw [← map_fst_markAlone [] raw, ← boundaries_takeLines false []] at hnested
      have hread : ∃ nodes, assemble [] [] (takeLines false [] (markAlone [] raw)) = .ok nodes :=
        assemble_ok_iff.2 hnested
      obtain ⟨nodes, hnodes⟩ := hread
      exact ⟨nodes, parse_eq_ok.2 ⟨_, tokens_eq_ok_iff.2 ⟨parts, raw, hcut, hdenotes, rfl⟩, hnodes⟩⟩
  · intro nodes
    rw [parse_eq_ok]
    constructor
    · rintro ⟨ts, hts, h⟩
      exact ⟨ts, hts, (assemble_eq_ok_iff (hasOwnMargin_of_tokens hts)).1 h⟩
    · rintro ⟨ts, hts, h⟩
      exact ⟨ts, hts, (assemble_eq_ok_iff (hasOwnMargin_of_tokens hts)).2 h⟩

end StubForge.Template
