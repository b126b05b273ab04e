import StubForge.Proofs.Decimal.Numeral
import StubForge.Proofs.Outcome
import StubForge.Proofs.Schema.PlainNames
import StubForge.Stub.Naming

/-! The brackets in what names, types and values are written as. A plain name has none, a type or a
value has them in pairs, at any depth, and what a string may hold stays inside its literal. -/
namespace StubForge
open Text

/-! ## Numbers -/

theorem Text.isMark_of_isDigit {c : Char} (h : c.isDigit = true) : isMark c = false := by
  have hmarks : (['(', ')', '[', ']', '{', '}'] ++ ['"', '\\']).all (!·.isDigit) = true := by
    decide
  by_contra hmark
  rw [Bool.not_eq_false] at hmark
  simpa [h] using List.all_eq_true.1 hmarks c (mem_marks hmark)

theorem plain_nat (n : Nat) : Plain n.repr := by
  rw [Plain, Nat.toList_repr]
  exact fun c hc => isMark_of_isDigit (Nat.isDigit_of_mem_toDigits (by decide) (by decide) hc)

theorem plain_int (i : Int) : Plain i.repr := by
  cases i with
  | ofNat n => exact plain_nat n
  | negSucc n =>
    have hminus : Plain "-" := plain_ofList rfl
    exact hminus.append (plain_nat (n + 1))

namespace Decimal

theorem plain_text (d : Binary64) : Plain (text d) := by
  unfold text
  split
  · obtain ⟨hwhole, hplaces⟩ := literalLayout.isDigit_numeral d
    rw [Plain, String.toList_ofList, Numeral.toList]
    simp only [List.forall_mem_append]
    refine ⟨⟨⟨?_, fun c hc => isMark_of_isDigit (hwhole c hc)⟩, ?_⟩, ?_⟩
    · split
      · exact List.forall_mem_singleton.2 (by decide)
      · exact List.forall_mem_nil _
    · split
      · exact List.forall_mem_nil _
      · exact List.forall_mem_cons.2
          ⟨by decide, fun c hc => isMark_of_isDigit (hplaces c hc)⟩
    · cases (literalLayout.numeral d).exponent with
      | none => exact List.forall_mem_nil _
      | some e => exact List.forall_mem_cons.2 ⟨by decide, plain_int e⟩
  · split
    · exact plain_ofList rfl
    · split <;> exact plain_ofList rfl

end Decimal

/-! ## Dialects -/

namespace Dialect

variable (d : Dialect)

theorem plain_quoteKeyword {name : String} (h : Plain name) : Plain (d.quoteKeyword name) := by
  have hback : Plain "`" := plain_ofList rfl
  have hline : Plain "_" := plain_ofList rfl
  unfold quoteKeyword
  split
  · cases d with
    | scala => exact (hback.append h).append hback
    | java => exact h.append hline
  · exact h

theorem plain_qualify {localName name : String} (hlocal : Plain localName) (hname : Plain name)
    {package? : Option Identifier} (hpackage : ∀ id ∈ package?, id.Plain) :
    Plain (d.qualify localName package? name) := by
  have hdot : Plain "." := plain_ofList rfl
  have hfirst : Plain "_" := plain_ofList rfl
  have hlast : Plain "_." := plain_ofList rfl
  cases d with
  | scala => exact ((hfirst.append hlocal).append hlast).append hname
  | java =>
    cases package? with
    | some package => exact ((hpackage package rfl).fullName.append hdot).append hname
    | none => exact (hlocal.append hdot).append hname

theorem plain_primitiveName (p : Primitive) (boxed : Bool) : Plain (d.primitiveName p boxed) := by
  cases d <;> cases p <;> cases boxed <;> exact plain_ofList rfl

theorem plain_containerBase (kind : Container) (mutable : Bool) :
    Plain (d.containerBase kind mutable) := by
  cases d <;> cases kind <;> cases mutable <;> exact plain_ofList rfl

theorem neutral_commaSeparated {items : List String} (h : ∀ t ∈ items, Neutral t) :
    Neutral (commaSeparated items) := Neutral.intercalate (neutral_ofList rfl) h

theorem neutral_containerType (kind : Container) {args : List String}
    (h : ∀ t ∈ args, Neutral t) (mutable : Bool) :
    Neutral (d.containerType kind args mutable) := by
  have hargs := neutral_commaSeparated h
  have hbase : Neutral (d.containerBase kind mutable) :=
    (d.plain_containerBase kind mutable).neutral
  cases d with
  | scala =>
    have hinner : Neutral ("[" ++ commaSeparated args ++ "]") := hargs.enclose [']'] rfl rfl
    have htype := hbase.append hinner
    rwa [← String.append_assoc, ← String.append_assoc] at htype
  | java =>
    have hinner : Neutral ("<" ++ commaSeparated args ++ ">") := hargs.enclose [] rfl rfl
    have htype := hbase.append hinner
    rwa [← String.append_assoc, ← String.append_assoc] at htype

theorem neutral_optionType {inner : String} (h : Neutral inner) : Neutral (d.optionType inner) := by
  cases d with
  | scala => exact h.enclose [']'] rfl rfl
  | java => exact h.enclose [] rfl rfl

theorem neutral_sequenceLiteral (kind : Container) {items : List String}
    (h : ∀ t ∈ items, Neutral t) (mutable : Bool) :
    Neutral (d.sequenceLiteral kind items mutable) := by
  have hitems := neutral_commaSeparated h
  cases d with
  | scala =>
    cases kind <;> cases mutable <;>
      exact hitems.enclose [')'] rfl rfl
  | java =>
    cases mutable with
    | false => cases kind <;> exact hitems.enclose [')'] rfl rfl
    | true => cases kind <;> exact hitems.enclose [')', ')'] rfl rfl

theorem neutral_mapEntry {entry : String × String} (hkey : Neutral entry.1)
    (hvalue : Neutral entry.2) : Neutral (d.mapEntry entry) := by
  have harrow : Neutral " -> " := neutral_ofList rfl
  have hcomma : Neutral ", " := neutral_ofList rfl
  obtain ⟨key, value⟩ := entry
  cases d with
  | scala => exact (hkey.append harrow).append hvalue
  | java =>
    have hentry : Neutral ("Map.entry(" ++ (key ++ ", " ++ value) ++ ")") :=
      ((hkey.append hcomma).append hvalue).enclose [')'] rfl rfl
    rwa [← String.append_assoc, ← String.append_assoc] at hentry

theorem neutral_mapLiteral {entries : List (String × String)}
    (h : ∀ e ∈ entries, Neutral e.1 ∧ Neutral e.2) (mutable : Bool) :
    Neutral (d.mapLiteral entries mutable) := by
  have hentries : Neutral (commaSeparated (entries.map d.mapEntry)) :=
    neutral_commaSeparated (List.forall_mem_map.2 fun e he =>
      d.neutral_mapEntry (h e he).1 (h e he).2)
  cases d with
  | scala => cases mutable <;> exact hentries.enclose [')'] rfl rfl
  | java =>
    cases mutable with
    | false => exact hentries.enclose [')'] rfl rfl
    | true => exact hentries.enclose [')', ')'] rfl rfl

theorem neutral_emptyContainer (kind : Container) {typeName : String} (h : Neutral typeName)
    (mutable : Bool) : Neutral (d.emptyContainer kind typeName mutable) := by
  have hcall : Neutral "()" := neutral_ofList rfl
  cases d with
  | scala => exact h.append hcall
  | java => cases kind <;> cases mutable <;> exact neutral_ofList rfl

end Dialect

/-! ## Names, types and values -/

namespace Naming

variable {n : Naming}

theorem plain_identifier {id : Identifier} (h : id.Plain) : Text.Plain (n.identifier id) :=
  Text.Plain.intercalate (plain_ofList rfl)
    (List.forall_mem_map.2 fun s hs => n.dialect.plain_quoteKeyword (h s hs))

theorem neutral_identifier {id : Identifier} (h : id.Plain) : Neutral (n.identifier id) :=
  (plain_identifier h).neutral

theorem plain_namedType (hn : n.Plain) {id : Identifier} (h : id.Plain) :
    Text.Plain (n.namedType id) := by
  have hname := n.dialect.plain_quoteKeyword h.name
  simp only [namedType]
  split
  · rename_i scope hscope
    refine n.dialect.plain_qualify (h.qualifier hscope).fullName hname fun package hpackage => ?_
    obtain ⟨before, after, hsplit, -⟩ := List.lookup_eq_some_iff.1 hpackage
    exact hn (scope.fullName, package) (by simp [hsplit])
  · exact hname

theorem neutral_renderType (hn : n.Plain) {mutable boxed : Bool} {t : Ty} (ht : t.Plain)
    {text : String} (h : n.renderType mutable boxed t = .ok text) : Neutral text := by
  induction t generalizing boxed text with
  | enum id =>
    cases h
    exact (plain_namedType hn ht).neutral
  | struct id =>
    cases h
    exact (plain_namedType hn ht).neutral
  | list item ih =>
    obtain ⟨inner, hinner, h⟩ := bind_eq_ok.1 h
    cases h
    exact n.dialect.neutral_containerType .list (List.forall_mem_singleton.2 (ih ht hinner)) _
  | set item ih =>
    obtain ⟨inner, hinner, h⟩ := bind_eq_ok.1 h
    cases h
    exact n.dialect.neutral_containerType .set (List.forall_mem_singleton.2 (ih ht hinner)) _
  | map key value ihk ihv =>
    obtain ⟨k, hk, h⟩ := bind_eq_ok.1 h
    obtain ⟨v, hv, h⟩ := bind_eq_ok.1 h
    cases h
    have hargs : ∀ t ∈ [k, v], Neutral t :=
      List.forall_mem_cons.2 ⟨ihk ht.1 hk, List.forall_mem_singleton.2 (ihv ht.2 hv)⟩
    exact n.dialect.neutral_containerType .map hargs _
  | reference id => cases h
  | _ =>
    cases h
    exact (n.dialect.plain_primitiveName _ boxed).neutral

theorem neutral_fieldType (hn : n.Plain) {f : Field} (hf : f.Plain) {mutable : Bool}
    {text : String} (h : n.fieldType f mutable = .ok text) : Neutral text := by
  unfold fieldType at h
  split at h
  · obtain ⟨arg, harg, rfl⟩ := map_eq_ok.1 h
    exact n.dialect.neutral_optionType (neutral_renderType hn hf.ty harg)
  · exact neutral_renderType hn hf.ty h

theorem neutral_zeroValue (hn : n.Plain) {t : Ty} (ht : t.Plain) {mutable : Bool} {text : String}
    (h : n.zeroValue t mutable = .ok text) : Neutral text := by
  have hempty {kind : Container} (h : n.emptyContainer kind t mutable = .ok text) :
      Neutral text := by
    obtain ⟨name, hname, rfl⟩ := map_eq_ok.1 h
    exact n.dialect.neutral_emptyContainer kind (neutral_renderType hn ht hname) mutable
  cases t with
  | list item => exact hempty h
  | set item => exact hempty h
  | map key value => exact hempty h
  | reference id => cases h
  | _ =>
    cases h
    exact neutral_ofList rfl

theorem plain_integer (i : Int64) : Text.Plain (integer i) := by
  have hsuffix : Text.Plain "L" := plain_ofList rfl
  simp only [integer]
  split
  · exact plain_int _
  · exact (plain_int _).append hsuffix

mutual

theorem neutral_literal (hn : n.Plain) (mutable : Bool) :
    ∀ {v : Literal}, v.Plain → Neutral (n.literal mutable v)
  | .null, _ => by
    rw [literal]
    exact neutral_ofList rfl
  | .string s, _ => by
    rw [literal]
    exact neutral_quote s
  | .double d, _ => by
    rw [literal]
    exact (Decimal.plain_text d).neutral
  | .int i, _ => by
    rw [literal]
    exact (plain_integer i).neutral
  | .bool b, _ => by
    rw [literal]
    cases b <;> exact neutral_ofList rfl
  | .list items, h => by
    rw [literal]
    exact n.dialect.neutral_sequenceLiteral .list (neutral_literals hn mutable h) mutable
  | .set items, h => by
    rw [literal]
    exact n.dialect.neutral_sequenceLiteral .set (neutral_literals hn mutable h) mutable
  | .map entries, h => by
    rw [literal]
    exact n.dialect.neutral_mapLiteral (neutral_literalEntries hn mutable h) mutable
  | .enum enumeration member, h => by
    have hdot : Text.Plain Dialect.scopeSeparator := plain_ofList rfl
    rw [literal]
    exact (((plain_namedType hn h.1).append hdot).append
      (n.dialect.plain_quoteKeyword h.2.name)).neutral
  | .id name, h => by
    rw [literal]
    exact neutral_identifier h

theorem neutral_literals (hn : n.Plain) (mutable : Bool) :
    ∀ {vs : List Literal}, Literal.PlainAll vs → ∀ t ∈ n.literals mutable vs, Neutral t
  | [], _ => List.forall_mem_nil _
  | _ :: _, h =>
    List.forall_mem_cons.2 ⟨neutral_literal hn mutable h.1, neutral_literals hn mutable h.2⟩

theorem neutral_literalEntries (hn : n.Plain) (mutable : Bool) :
    ∀ {es : List (Literal × Literal)}, Literal.PlainEntries es →
      ∀ e ∈ n.literalEntries mutable es, Neutral e.1 ∧ Neutral e.2
  | [], _ => List.forall_mem_nil _
  | _ :: _, h =>
    List.forall_mem_cons.2 ⟨⟨neutral_literal hn mutable h.1.1, neutral_literal hn mutable h.1.2⟩,
      neutral_literalEntries hn mutable h.2⟩

end

theorem neutral_fieldInitial (hn : n.Plain) {f : Field} (hf : f.Plain) {initial : Option String}
    (h : n.fieldInitial? f = .ok initial) : ∀ text ∈ initial, Neutral text := by
  rintro text rfl
  unfold fieldInitial? at h
  split at h
  · cases h
  · split at h
    · rename_i value hvalue
      cases h
      exact neutral_literal hn false (hf.initial value hvalue)
    · split at h
      · obtain ⟨zero, hzero, hsome⟩ := map_eq_ok.1 h
        cases hsome
        exact neutral_zeroValue hn hf.ty hzero
      · cases h

end Naming
end StubForge
