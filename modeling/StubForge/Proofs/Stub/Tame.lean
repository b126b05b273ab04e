import StubForge.Proofs.Stub.Brackets
import StubForge.Proofs.Template.Brackets

/-! The dictionaries of a document with plain names: each of their texts closes the brackets that it
opens. -/
namespace StubForge
open Text Template

/-- The Scala template of an enum has the name of the enum inside a literal. Sections under these
flags open brackets that others close. -/
def sourceKeys : Keys := ⟨["EnumName"], ["optional", "nullable", "has_throws"]⟩

section
variable {key : String}

@[simp] theorem tameEntry_code {text : String} : TameEntry sourceKeys key (.code text) ↔
    Neutral text ∧ (key = "EnumName" → Plain text) := by simp [TameEntry, sourceKeys]

@[simp] theorem tameEntry_flag (value : Bool) : TameEntry sourceKeys key (.flag value) := trivial

@[simp] theorem tameEntry_dict {d : Dictionary} : TameEntry sourceKeys key (.dict d) ↔
    key ∉ ["optional", "nullable", "has_throws"] ∧ TameAll sourceKeys d := Iff.rfl

@[simp] theorem tameEntry_list {items : List Dictionary} : TameEntry sourceKeys key (.list items) ↔
    key ∉ ["optional", "nullable", "has_throws"] ∧ TameEach sourceKeys items := Iff.rfl

end

variable {n : Naming}

theorem tameEach_markEnds_mapM {α : Type} {f : α → Except Fault Dictionary} {xs : List α}
    {ds : List Dictionary} (h : xs.mapM f = .ok ds)
    (hf : ∀ x ∈ xs, ∀ d, f x = .ok d → TameAll sourceKeys d) :
    TameEach sourceKeys (Dictionary.markEnds ds) :=
  (tameEach_iff.2 (forall_mem_of_forall₂ (mapM_eq_ok.1 h) hf)).markEnds

/-! ## Constants and enums -/

theorem Naming.imports_tame {inclusions : List Inclusion}
    (h : ∀ i ∈ inclusions, i.localName.Plain ∧ (i.document.packageFor n.dialect).Plain) :
    TameEach sourceKeys (n.imports inclusions) := by
  have hunderscore : Text.Plain "_" := plain_ofList rfl
  have hroot : Neutral rootPackage := neutral_ofList rfl
  refine tameEach_iff.2 (List.forall_mem_map.2 fun i hi => ?_)
  obtain ⟨hlocal, hpackage⟩ := h i hi
  have halias : Neutral (n.identifier ((i.localName.prepend "_").append "_")) :=
    neutral_identifier ((hlocal.prepend hunderscore).append hunderscore)
  have hfile : Neutral (n.identifier (i.document.packageFor n.dialect)) :=
    neutral_identifier hpackage
  rw [importEntry]
  cases hscope : (i.document.packageFor n.dialect).qualifier with
  | none => simp [TameAll, hroot, hfile, halias]
  | some scope =>
    have habove : Neutral (n.identifier scope) := neutral_identifier (hpackage.qualifier hscope)
    have hleaf : Neutral (n.identifier (i.document.packageFor n.dialect).leaf) :=
      neutral_identifier hpackage.leaf
    simp [TameAll, habove, hleaf, hfile, halias]

theorem Constant.dictionary_tame (hn : n.Plain) {c : Constant} (hc : c.Plain) {d : Dictionary}
    (h : c.dictionary n = .ok d) : TameAll sourceKeys d := by
  obtain ⟨type, htype, hd⟩ := bind_eq_ok.1 h
  cases hd
  have hname : Neutral (n.identifier c.name) := Naming.neutral_identifier hc.name
  have ht := Naming.neutral_renderType hn hc.ty htype
  have hvalue := Naming.neutral_literal hn false hc.value
  simp [TameAll, hname, ht, hvalue]

theorem Setting.Plain.neutral_package {s : Setting} (hs : s.Plain) :
    Neutral (s.naming.identifier s.package) := Naming.neutral_identifier hs.package

theorem constantsDictionary_tame {s : Setting} (hs : s.Plain) {items : List Constant}
    (hitems : ∀ c ∈ items, c.Plain) {d : Dictionary}
    (h : constantsDictionary s.naming s.package s.inclusions items = .ok d) :
    TameAll sourceKeys d := by
  obtain ⟨ds, hds, hd⟩ := bind_eq_ok.1 h
  cases hd
  have hi := Naming.imports_tame hs.inclusions
  have hc := tameEach_markEnds_mapM hds fun c hc _ => c.dictionary_tame hs.naming (hitems c hc)
  simp [TameAll, hs.neutral_package, hi, hc]

theorem Enumerator.dictionary_tame {m : Enumerator} (hm : m.name.Plain) :
    TameAll sourceKeys (m.dictionary n) := by
  have hname : Neutral (n.identifier m.name) := Naming.neutral_identifier hm
  simp [dictionary, TameAll, hname, neutral_quote, (plain_int _).neutral]

theorem Enumeration.dictionary_tame {s : Setting} (hs : s.Plain) {e : Enumeration}
    (he : e.Plain) : TameAll sourceKeys (e.dictionary s.naming s.package) := by
  have hname : Text.Plain (s.naming.identifier e.name) := Naming.plain_identifier he.name
  have hmembers : TameEach sourceKeys (e.members.map (·.dictionary s.naming)) :=
    tameEach_iff.2 (List.forall_mem_map.2 fun m hm => m.dictionary_tame (he.members m hm))
  simp [dictionary, TameAll, hs.neutral_package, hname, hname.neutral, hmembers.markEnds]

/-! ## Structs -/

theorem ServiceOptions.dictionary_tame (options : ServiceOptions) :
    TameAll sourceKeys options.dictionary := by
  simp [dictionary, ServiceOption.all, TameAll]

theorem Ty.plain_scalarName {t : Ty} {name : String} (h : t.scalarName? = some name) :
    Text.Plain name := by
  cases t <;> cases h <;> exact plain_ofList rfl

theorem Field.methodEntries_tame {f : Field} {d : Dictionary} (h : f.methodEntries = .ok d) :
    TameAll sourceKeys d := by
  have hread : Text.Plain "read" := plain_ofList rfl
  have hwrite : Text.Plain "write" := plain_ofList rfl
  rw [methodEntries, Ty.hasProtocolMethod, Ty.readMethod, Ty.writeMethod] at h
  cases hname : f.ty.scalarName? with
  | none =>
    rw [hname] at h
    cases h
    trivial
  | some name =>
    have hplain := Ty.plain_scalarName hname
    rw [hname] at h
    cases h
    simp [TameAll, (hread.append hplain).neutral, (hwrite.append hplain).neutral]

theorem Field.initialEntries_tame {initial : Option String} (h : ∀ text ∈ initial, Neutral text) :
    TameAll sourceKeys (initialEntries initial) := by
  cases initial with
  | none => exact ⟨trivial, trivial⟩
  | some text => simp [initialEntries, TameAll, h text rfl]

section
variable {f : Field}

theorem Field.Plain.titleName (h : f.Plain) : f.titleName.Plain := h.name.title

theorem Field.Plain.getterName (h : f.Plain) : f.getterName.Plain :=
  h.name.title.prepend (plain_ofList rfl)

theorem Field.Plain.constantName (h : f.Plain) : f.constantName.Plain :=
  h.name.leaf.upper.append (plain_ofList rfl)

end

theorem Field.dictionary_tame (hn : n.Plain) {f : Field} (hf : f.Plain) {index : Nat}
    {d : Dictionary} (h : f.dictionary n index = .ok d) : TameAll sourceKeys d := by
  simp only [dictionary, bind_eq_ok] at h
  obtain ⟨tag, -, type, htype, plain, hplain, boxed, hboxed, read, hread, initial, hinitial,
    methods, hmethods, hd⟩ := h
  cases hd
  have hid : Neutral f.id.toInt.repr := (plain_int _).neutral
  have hindex : Neutral index.repr := (plain_nat _).neutral
  have hname : Neutral (n.identifier f.name) := Naming.neutral_identifier hf.name
  have htitle : Neutral (n.identifier f.titleName) := Naming.neutral_identifier hf.titleName
  have hgetter : Neutral (n.identifier f.getterName) := Naming.neutral_identifier hf.getterName
  have hconst : Neutral (n.identifier f.constantName) := Naming.neutral_identifier hf.constantName
  have hwire := neutral_quote f.wireName
  have htag : Neutral tag.name := by cases tag <;> exact neutral_ofList rfl
  have hcode : Neutral tag.code.repr := (plain_nat _).neutral
  have ht := Naming.neutral_fieldType hn hf htype
  have hp := Naming.neutral_renderType hn hf.ty hplain
  have hb := Naming.neutral_renderType hn hf.ty hboxed
  have hr := Naming.neutral_zeroValue hn hf.ty hread
  have hi := initialEntries_tame (Naming.neutral_fieldInitial hn hf hinitial)
  have hm := methodEntries_tame hmethods
  simp [TameAll, hid, hindex, hname, htitle, hgetter, hconst, hwire, htag, hcode, ht, hp, hb, hr,
    hi, hm]

theorem Field.dictionaries_tame (hn : n.Plain) {fs : List Field} (hfs : ∀ f ∈ fs, f.Plain)
    {index : Nat} {ds : List Dictionary} (h : dictionaries n index fs = .ok ds) :
    TameEach sourceKeys ds := by
  induction fs generalizing index ds with
  | nil =>
    cases h
    trivial
  | cons f fs ih =>
    simp only [dictionaries, bind_eq_ok] at h
    obtain ⟨d, hd, r, hr, hds⟩ := h
    cases hds
    obtain ⟨hf, hrest⟩ := List.forall_mem_cons.1 hfs
    exact ⟨dictionary_tame hn hf hd, ih hrest hr⟩

theorem Record.body_tame (hn : n.Plain) {r : Record} (hr : r.Plain) {d : Dictionary}
    (h : r.body n = .ok d) : TameAll sourceKeys d := by
  obtain ⟨ds, hds, hd⟩ := bind_eq_ok.1 h
  cases hd
  have hname : Neutral (n.identifier r.name) := Naming.neutral_identifier hr.name
  have hwire := neutral_quote r.name.name
  have hfields := (Field.dictionaries_tame hn hr.fields hds).markEnds
  simp [TameAll, hname, hwire, hfields]

theorem Record.dictionary_tame {s : Setting} (hs : s.Plain) {r : Record} (hr : r.Plain)
    {options : ServiceOptions} {d : Dictionary}
    (h : r.dictionary s.naming s.package s.inclusions options = .ok d) :
    TameAll sourceKeys d := by
  obtain ⟨body, hbody, hd⟩ := bind_eq_ok.1 h
  cases hd
  have hi := Naming.imports_tame hs.inclusions
  have hb := body_tame hs.naming hr hbody
  simp [TameAll, hs.neutral_package, hi, hb, options.dictionary_tame]

/-! ## Services -/

theorem Field.parameter_tame (hn : n.Plain) {f : Field} (hf : f.Plain) {d : Dictionary}
    (h : f.parameter n = .ok d) : TameAll sourceKeys d := by
  obtain ⟨type, htype, hd⟩ := bind_eq_ok.1 h
  cases hd
  have hid : Neutral f.id.toInt.repr := (plain_int _).neutral
  have hname : Neutral (n.identifier f.name) := Naming.neutral_identifier hf.name
  have htitle : Neutral (n.identifier f.titleName) := Naming.neutral_identifier hf.titleName
  have hgetter : Neutral (n.identifier f.getterName) := Naming.neutral_identifier hf.getterName
  have ht := Naming.neutral_fieldType hn hf htype
  simp [TameAll, hid, hname, htitle, hgetter, ht]

theorem Method.Plain.argsName {m : Method} (h : m.Plain) : m.argsName.Plain :=
  h.name.leaf.title.append (plain_ofList rfl)

theorem Method.Plain.resultName {m : Method} (h : m.Plain) : m.resultName.Plain :=
  h.name.leaf.title.append (plain_ofList rfl)

theorem Method.dictionary_tame (hn : n.Plain) {m : Method} (hm : m.Plain) {d : Dictionary}
    (h : m.dictionary n = .ok d) : TameAll sourceKeys d := by
  simp only [dictionary, bind_eq_ok] at h
  obtain ⟨args, hargs, throws, hthrows, returns, hreturns, returnsArg, hreturnsArg, hd⟩ := h
  cases hd
  have hname : Neutral (n.identifier m.name) := Naming.neutral_identifier hm.name
  have hwire := neutral_quote m.wireName
  have htitle : Neutral (n.identifier m.name.title) := Naming.neutral_identifier hm.name.title
  have hr := Naming.neutral_renderType hn hm.returns hreturns
  have hra := Naming.neutral_renderType hn hm.returns hreturnsArg
  have ha := tameEach_markEnds_mapM hargs fun f hf _ => f.parameter_tame hn (hm.args f hf)
  have hnames : Neutral (", ".intercalate (m.args.map fun f => n.identifier f.name)) :=
    Dialect.neutral_commaSeparated (List.forall_mem_map.2 fun f hf =>
      Naming.neutral_identifier (hm.args f hf).name)
  have hargsName : Neutral (n.identifier m.argsName) := Naming.neutral_identifier hm.argsName
  have hresultName : Neutral (n.identifier m.resultName) := Naming.neutral_identifier hm.resultName
  have ht := tameEach_markEnds_mapM hthrows fun f hf _ => f.parameter_tame hn (hm.throws f hf)
  simp [TameAll, hname, hwire, htitle, hr, hra, hnames, hargsName, hresultName, ha, ht]

/-- The structs that go with a method have plain names if the method has. -/
theorem Method.Plain.records {m : Method} (h : m.Plain) : ∀ r ∈ m.records, r.Plain := by
  have hname : (Identifier.simple "success").Plain :=
    List.forall_mem_singleton.2 (plain_ofList rfl)
  have hsuccess : (successField m.returns).Plain := ⟨hname, h.returns, nofun⟩
  have hresult : ∀ f ∈ m.resultFields, f.Plain :=
    forall_mem_resultFields hsuccess fun f hf => ⟨(h.throws f hf).name, (h.throws f hf).ty, nofun⟩
  intro r hr
  rcases eq_of_mem_records hr with rfl | rfl
  · exact ⟨h.argsName, h.args⟩
  · exact ⟨h.resultName, hresult⟩

theorem Service.parentEntries_tame (hn : n.Plain) {s : Service} (hs : s.Plain) :
    TameAll sourceKeys (s.parentEntries n) := by
  unfold parentEntries
  split
  · rename_i p hp
    obtain ⟨hname, hscope⟩ := hs.parent p hp
    -- The local name of an included document becomes the scope of its service.
    have hreference : p.reference.Plain := by
      unfold Parent.reference
      split
      · rename_i scope heq
        exact List.forall_mem_cons.2 ⟨(hscope scope heq).fullName,
          List.forall_mem_singleton.2 hname.name⟩
      · exact hname
    have htext := (Naming.plain_namedType hn hreference).neutral
    simp [TameAll, htext]
  · trivial

theorem Service.dictionary_tame {s : Setting} (hs : s.Plain) {v : Service} (hv : v.Plain)
    {options : ServiceOptions} {d : Dictionary}
    (h : v.dictionary s.naming s.package s.inclusions options = .ok d) :
    TameAll sourceKeys d := by
  simp only [dictionary, bind_eq_ok] at h
  obtain ⟨methods, hmethods, records, hrecords, hd⟩ := h
  cases hd
  have hname : Neutral (s.naming.identifier v.name) := Naming.neutral_identifier hv.name
  have hi := Naming.imports_tame hs.inclusions
  have hm := tameEach_markEnds_mapM hmethods fun m hm _ =>
    m.dictionary_tame hs.naming (hv.methods m hm)
  have hplain : ∀ r ∈ v.methods.flatMap Method.records, r.Plain := by
    intro r hr
    obtain ⟨m, hm, hr⟩ := List.mem_flatMap.1 hr
    exact (hv.methods m hm).records r hr
  have hr := tameEach_markEnds_mapM hrecords fun r hr _ => r.body_tame hs.naming (hplain r hr)
  have hp := parentEntries_tame hs.naming hv
  simp [TameAll, hs.neutral_package, hname, hi, hm, hr, hp, options.dictionary_tame]

/-- Whatever a construct is, a plain one has a tame dictionary. -/
theorem Construct.dictionary_tame {s : Setting} (hs : s.Plain) {k : Construct} (hk : k.Plain)
    {d : Dictionary} (h : k.dictionary s = .ok d) : TameAll sourceKeys d := by
  cases k with
  | constants items => exact constantsDictionary_tame hs hk h
  | enumeration e =>
    cases h
    exact e.dictionary_tame hs hk
  | record r => exact r.dictionary_tame hs hk h
  | service v => exact v.dictionary_tame hs hk h

end StubForge
