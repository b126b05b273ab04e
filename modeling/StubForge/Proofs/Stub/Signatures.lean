import StubForge.Proofs.Outcome
import StubForge.Proofs.Template.Marks
import StubForge.Stub.Services

/-! Methods and the structs that go with them: where a service keeps the structs of a method, and
how far these agree with what the method says about its arguments and exceptions. -/
namespace StubForge

open Dictionary

/-! ## Fields -/

/-- The keys that tell a parameter or a field from others. -/
def identityKeys : List String := ["id", "field_name", "FieldName", "getter"]

/-- A field that may be missing and has no value to start from. -/
structure IsBareOptional (d : Dialect) (field : Dictionary) : Prop where
  optional : field.flag? "optional" = some true
  hasNoDefault : field.flag? "has_default_value" = some false
  noDefault : field.get? "default_value" = none
  type : ∃ boxed, field.code? "boxed_field_type" = some boxed ∧
    field.code? "field_type" = some (d.optionType boxed)

namespace Field

/-- What a parameter and a field both say about themselves. -/
structure Entries (n : Naming) (f : Field) (d : Dictionary) : Prop where
  id : d.code? "id" = some f.id.toInt.repr
  name : d.code? "field_name" = some (n.identifier f.name)
  title : d.code? "FieldName" = some (n.identifier f.titleName)
  getter : d.code? "getter" = some (n.identifier f.getterName)
  type : ∃ type, n.fieldType f false = .ok type ∧ d.code? "field_type" = some type

theorem entries_of_parameter {n : Naming} {f : Field} {d : Dictionary}
    (h : f.parameter n = .ok d) : f.Entries n d := by
  simp only [parameter, bind_eq_ok] at h
  obtain ⟨type, htype, h⟩ := h
  cases h
  exact ⟨rfl, rfl, rfl, rfl, type, htype, rfl⟩

theorem Entries.marked {n : Naming} {f : Field} {d e : Dictionary} (h : f.Entries n d)
    (he : Marked d e) : f.Entries n e := by
  obtain ⟨type, htype, hcode⟩ := h.type
  constructor
  · rw [he.code? (by decide) (by decide), h.id]
  · rw [he.code? (by decide) (by decide), h.name]
  · rw [he.code? (by decide) (by decide), h.title]
  · rw [he.code? (by decide) (by decide), h.getter]
  · exact ⟨type, htype, by rw [he.code? (by decide) (by decide), hcode]⟩

/-- Fields of one number and one name agree on what identifies them. -/
theorem Entries.agreeOn_identity {n : Naming} {f g : Field} {d e : Dictionary}
    (hf : f.Entries n d) (hg : g.Entries n e) (hid : g.id = f.id) (hname : g.name = f.name) :
    AgreeOn identityKeys d e := by
  have htitle : g.titleName = f.titleName := by rw [titleName, hname, titleName]
  have hgetter : g.getterName = f.getterName := by rw [getterName, hname, getterName]
  intro key hkey
  simp only [identityKeys, List.mem_cons, List.not_mem_nil, or_false] at hkey
  rcases hkey with rfl | rfl | rfl | rfl
  · exact ⟨_, hf.id, by rw [hg.id, hid]⟩
  · exact ⟨_, hf.name, by rw [hg.name, hname]⟩
  · exact ⟨_, hf.title, by rw [hg.title, htitle]⟩
  · exact ⟨_, hf.getter, by rw [hg.getter, hgetter]⟩

theorem Entries.agreeOn_signature {n : Naming} {f : Field} {d e : Dictionary}
    (hd : f.Entries n d) (he : f.Entries n e) : AgreeOn (identityKeys ++ ["field_type"]) d e := by
  intro key hkey
  rcases List.mem_append.1 hkey with hkey | hkey
  · exact hd.agreeOn_identity he rfl rfl key hkey
  · obtain ⟨type, htype, hcode⟩ := hd.type
    obtain ⟨type', htype', hcode'⟩ := he.type
    cases List.mem_singleton.1 hkey
    cases htype.symm.trans htype'
    exact ⟨type, hcode, hcode'⟩

theorem methodEntries_get? {f : Field} {ms : Dictionary} (h : f.methodEntries = .ok ms)
    {key : String} (hread : key ≠ "read_method") (hwrite : key ≠ "write_method") :
    ms.get? key = none := by
  unfold methodEntries at h
  split at h
  · simp only [bind_eq_ok] at h
    obtain ⟨read, -, write, -, h⟩ := h
    cases h
    simp [Ne.symm hread, Ne.symm hwrite]
  · cases h
    rfl

/-- The item of a field in the list of a struct: its dictionary with the marks of its place. -/
def HasItem (n : Naming) (f : Field) (item : Dictionary) : Prop :=
  ∃ index d, f.dictionary n index = .ok d ∧ Marked d item

/-- What an item says about the declaration of its field, with no step that could fail. -/
structure Declared (n : Naming) (f : Field) (item : Dictionary) : Prop where
  wireName : item.code? "field_name_for_wire" = some (Text.quote f.wireName)
  constant : item.code? "field_const" = some (n.identifier f.constantName)
  nullable : item.flag? "nullable" = some (f.ty.isNullable f.isOptional)

section
variable {n : Naming} {f : Field} {item : Dictionary} (h : f.HasItem n item)
include h

theorem HasItem.entries : f.Entries n item := by
  obtain ⟨index, d, h, hmark⟩ := h
  simp only [dictionary, bind_eq_ok] at h
  obtain ⟨tag, -, type, htype, plain, -, boxed, -, zero, -, initial, -, methods, -, h⟩ := h
  cases h
  exact Entries.marked ⟨rfl, rfl, rfl, rfl, type, htype, rfl⟩ hmark

theorem HasItem.declared : f.Declared n item := by
  obtain ⟨index, d, h, hmark⟩ := h
  simp only [dictionary, bind_eq_ok] at h
  obtain ⟨tag, -, type, -, plain, -, boxed, -, zero, -, initial, -, methods, -, h⟩ := h
  cases h
  constructor
  · exact hmark.code? (by decide) (by decide)
  · exact hmark.code? (by decide) (by decide)
  · exact hmark.flag? (by decide) (by decide)

/-- An optional field is stored boxed and starts without a value. -/
theorem HasItem.isBareOptional (hf : f.isOptional = true) : IsBareOptional n.dialect item := by
  obtain ⟨index, d, h, hmark⟩ := h
  simp only [dictionary, bind_eq_ok] at h
  obtain ⟨tag, -, type, htype, plain, -, boxed, hboxed, zero, -, initial, hinitial, methods,
    hmethods, h⟩ := h
  rw [Naming.fieldType, if_pos hf, hboxed] at htype
  rw [Naming.fieldInitial?, if_pos hf] at hinitial
  cases htype
  cases hinitial
  cases h
  constructor
  · rw [hmark.flag? (by decide) (by decide), ← hf]
    rfl
  · exact hmark.flag? (by decide) (by decide)
  · rw [hmark _ (by decide) (by decide), get?_append,
      methodEntries_get? hmethods (by decide) (by decide)]
    rfl
  · exact ⟨boxed, hmark.code? (by decide) (by decide), hmark.code? (by decide) (by decide)⟩

end

theorem forall₂_dictionaries {n : Naming} {index : Nat} {fs : List Field} {ds : List Dictionary}
    (h : dictionaries n index fs = .ok ds) :
    List.Forall₂ (fun f d => ∃ i, f.dictionary n i = .ok d) fs ds := by
  induction fs generalizing index ds with
  | nil =>
    cases h
    exact .nil
  | cons f fs ih =>
    simp only [dictionaries, bind_eq_ok] at h
    obtain ⟨d, hd, rest, hrest, h⟩ := h
    cases h
    exact .cons ⟨index, hd⟩ (ih hrest)

end Field

/-! ## Methods and structs -/

/-- The names of a struct in its dictionary, and an item for each of its fields. -/
theorem Record.body_items {n : Naming} {r : Record} {d : Dictionary} (h : r.body n = .ok d) :
    d.code? "StructName" = some (n.identifier r.name) ∧
    d.code? "struct_name_for_wire" = some (Text.quote r.name.name) ∧ ∃ items,
      d.list? "fields" = some items ∧ List.Forall₂ (Field.HasItem n) r.fields items := by
  simp only [body, bind_eq_ok] at h
  obtain ⟨fields, hfields, h⟩ := h
  cases h
  refine ⟨rfl, rfl, markEnds fields, rfl, ?_⟩
  refine (forall₂_markEnds (Field.forall₂_dictionaries hfields)).imp ?_
  rintro f item ⟨d, ⟨i, hd⟩, hmark⟩
  exact ⟨i, d, hd, hmark⟩

/-- The file of a struct has the fields of its body. -/
theorem Record.exists_body_of_dictionary {n : Naming} {package : Identifier}
    {inclusions : List Inclusion} {options : ServiceOptions} {r : Record} {dict : Dictionary}
    (h : r.dictionary n package inclusions options = .ok dict) :
    ∃ body, r.body n = .ok body ∧ dict.list? "fields" = body.list? "fields" := by
  obtain ⟨body, hbody, h⟩ := bind_eq_ok.1 h
  cases h
  obtain ⟨-, -, fields, hlist, -⟩ := body_items hbody
  refine ⟨body, hbody, ?_⟩
  rw [hlist, list?_eq_some, get?_append, get?_append, list?_eq_some.1 hlist]
  rfl

/-- What the dictionary of a struct has under the keys that do not depend on its kind. -/
theorem Record.body_entries {n : Naming} {r : Record} {d : Dictionary} (h : r.body n = .ok d) :
    d.code? "StructName" = some (n.identifier r.name) ∧ ∃ fields,
      d.list? "fields" = some fields ∧
      List.Forall₂ (fun f e => f.Entries n e ∧
        (f.isOptional = true → IsBareOptional n.dialect e)) r.fields fields := by
  obtain ⟨hname, -, items, hlist, hitems⟩ := body_items h
  exact ⟨hname, items, hlist, hitems.imp fun f item hf => ⟨hf.entries, hf.isBareOptional⟩⟩

/-- What the dictionary of a method has under the keys that name and describe its structs. -/
structure Method.Entries (n : Naming) (m : Method) (d : Dictionary) : Prop where
  oneway : d.flag? "is_oneway" = some m.oneway
  isVoid : d.flag? "is_void" = some m.returns.isVoid
  argsStruct : d.code? "args_struct" = some (n.identifier m.argsName)
  resultStruct : d.code? "result_struct" = some (n.identifier m.resultName)
  argNames : d.code? "arg_names" =
    some (", ".intercalate (m.args.map fun f => n.identifier f.name))
  args : ∃ args, d.list? "args" = some args ∧ List.Forall₂ (Field.Entries n) m.args args
  throws : ∃ throws, d.list? "throws" = some throws ∧
    List.Forall₂ (Field.Entries n) m.throws throws

theorem Method.entries_of_dictionary {n : Naming} {m : Method} {d e : Dictionary}
    (h : m.dictionary n = .ok d) (he : Marked d e) : m.Entries n e := by
  simp only [dictionary, bind_eq_ok, mapM_eq_ok] at h
  obtain ⟨args, hargs, throws, hthrows, returns, -, arg, -, h⟩ := h
  cases h
  have hparameters {fs : List Field} {ds : List Dictionary}
      (h : List.Forall₂ (fun f d => f.parameter n = .ok d) fs ds) :
      List.Forall₂ (Field.Entries n) fs (markEnds ds) := by
    refine (forall₂_markEnds h).imp ?_
    rintro f e ⟨d, hd, hmark⟩
    exact (Field.entries_of_parameter hd).marked hmark
  constructor
  · exact he.flag? (by decide) (by decide)
  · exact he.flag? (by decide) (by decide)
  · exact he.code? (by decide) (by decide)
  · exact he.code? (by decide) (by decide)
  · exact he.code? (by decide) (by decide)
  · exact ⟨markEnds args, he.list? (by decide) (by decide), hparameters hargs⟩
  · exact ⟨markEnds throws, he.list? (by decide) (by decide), hparameters hthrows⟩

/-- The dictionaries that a service has for its methods and for their structs, each with the marks of
its place. -/
theorem Service.exists_dictionaries {n : Naming} {package : Identifier}
    {inclusions : List Inclusion} {options : ServiceOptions} {s : Service} {dict : Dictionary}
    (h : s.dictionary n package inclusions options = .ok dict) :
    ∃ methods records, dict.list? "functions" = some methods ∧
      dict.list? "function_structs" = some records ∧
      List.Forall₂ (fun m method => ∃ d, m.dictionary n = .ok d ∧ Marked d method)
        s.methods methods ∧
      List.Forall₂ (fun r record => ∃ body, r.body n = .ok body ∧ Marked body record)
        (s.methods.flatMap Method.records) records := by
  simp only [dictionary, bind_eq_ok, mapM_eq_ok] at h
  obtain ⟨methods, hmethods, records, hrecords, h⟩ := h
  cases h
  exact ⟨markEnds methods, markEnds records, rfl, rfl, forall₂_markEnds hmethods,
    forall₂_markEnds hrecords⟩

/-- The items that the dictionary of a service has for its methods and for their structs. -/
theorem Service.exists_items {n : Naming} {package : Identifier} {inclusions : List Inclusion}
    {options : ServiceOptions} {s : Service} {dict : Dictionary}
    (h : s.dictionary n package inclusions options = .ok dict) :
    ∃ methods records, dict.list? "functions" = some methods ∧
      dict.list? "function_structs" = some records ∧
      List.Forall₂ (Method.Entries n) s.methods methods ∧
      List.Forall₂ (fun r record => ∃ body, r.body n = .ok body ∧ Marked body record)
        (s.methods.flatMap Method.records) records := by
  obtain ⟨methods, records, hfunctions, hstructs, hmethods, hrecords⟩ := exists_dictionaries h
  refine ⟨methods, records, hfunctions, hstructs, hmethods.imp ?_, hrecords⟩
  rintro m method ⟨d, hd, hmark⟩
  exact Method.entries_of_dictionary hd hmark

/-- The struct of the arguments of a method: one field for each parameter, and together they are
what a call passes on. -/
structure IsArgumentsOf (method record : Dictionary) : Prop where
  name : ∃ text, method.code? "args_struct" = some text ∧ record.code? "StructName" = some text
  fields : ∃ args fields, method.list? "args" = some args ∧ record.list? "fields" = some fields ∧
    List.Forall₂ (AgreeOn (identityKeys ++ ["field_type"])) args fields ∧
    ∃ names, fields.map (·.code? "field_name") = names.map some ∧
      method.code? "arg_names" = some (", ".intercalate names)

/-- The struct of the result of a method: the value, unless there is none, and each exception. -/
structure IsResultOf (d : Dialect) (method record : Dictionary) : Prop where
  name : ∃ text, method.code? "result_struct" = some text ∧ record.code? "StructName" = some text
  fields : ∃ isVoid throws success thrown, method.flag? "is_void" = some isVoid ∧
    method.list? "throws" = some throws ∧ record.list? "fields" = some (success ++ thrown) ∧
    (isVoid = true → success = []) ∧
    (isVoid = false → ∃ f, success = [f] ∧ f.code? "field_name" = some "success" ∧
      f.code? "id" = some "0") ∧
    List.Forall₂ (AgreeOn identityKeys) throws thrown ∧
    ∀ f ∈ success ++ thrown, IsBareOptional d f

theorem Method.isArgumentsOf {n : Naming} {m : Method} {method d record : Dictionary}
    (hm : m.Entries n method) (hd : m.argsRecord.body n = .ok d) (hrecord : Marked d record) :
    IsArgumentsOf method record := by
  obtain ⟨hname, fields, hlist, hfields⟩ := Record.body_entries hd
  obtain ⟨args, hargs, hparameters⟩ := hm.args
  refine ⟨⟨_, hm.argsStruct, ?_⟩, args, fields, hargs, ?_, ?_, _, ?_, hm.argNames⟩
  · rw [hrecord.code? (by decide) (by decide), hname, argsRecord]
  · rw [hrecord.list? (by decide) (by decide), hlist]
  · exact forall₂_join hparameters hfields fun f p e hp he => hp.agreeOn_signature he.1
  · rw [← List.forall₂_eq_eq_eq, List.forall₂_map_left_iff, List.forall₂_map_right_iff,
      List.forall₂_map_right_iff]
    exact List.Forall₂.flip (hfields.imp fun f e he => he.1.name)

theorem Method.isOptional_resultFields (m : Method) :
    ∀ f ∈ m.resultFields, f.isOptional = true := forall_mem_resultFields rfl fun _ _ => rfl

theorem Method.isResultOf {n : Naming} {m : Method} {method d record : Dictionary}
    (hm : m.Entries n method) (hd : Record.body n ⟨m.resultName, .struct, m.resultFields⟩ = .ok d)
    (hrecord : Marked d record) : IsResultOf n.dialect method record := by
  obtain ⟨hname, fields, hlist, hfields⟩ := Record.body_entries hd
  obtain ⟨throws, hthrows, hparameters⟩ := hm.throws
  have hbare : ∀ e ∈ fields, IsBareOptional n.dialect e :=
    forall_mem_of_forall₂ hfields fun f hf e he => he.2 (m.isOptional_resultFields f hf)
  have hthrown {thrown : List Dictionary}
      (h : List.Forall₂ (fun f e => f.Entries n e ∧
        (f.isOptional = true → IsBareOptional n.dialect e)) (m.throws.map thrownField) thrown) :
      List.Forall₂ (AgreeOn identityKeys) throws thrown := by
    rw [List.forall₂_map_left_iff] at h
    exact forall₂_join hparameters h fun f p e hp he => hp.agreeOn_identity he.1 rfl rfl
  refine ⟨⟨_, hm.resultStruct, by rw [hrecord.code? (by decide) (by decide), hname]⟩, ?_⟩
  have hrecordFields : record.list? "fields" = some fields := by
    rw [hrecord.list? (by decide) (by decide), hlist]
  rw [resultFields] at hfields
  cases hv : m.returns.isVoid with
  | true =>
    rw [hv, if_pos rfl, List.nil_append] at hfields
    exact ⟨true, throws, [], fields, hm.isVoid.trans (congrArg some hv), hthrows, hrecordFields,
      fun _ => rfl, fun h => absurd h.symm Bool.false_ne_true, hthrown hfields, hbare⟩
  | false =>
    rw [hv, if_neg Bool.false_ne_true, List.singleton_append,
      List.forall₂_cons_left_iff] at hfields
    obtain ⟨e, thrown, ⟨hentries, -⟩, hrest, rfl⟩ := hfields
    have hsuccess : n.identifier (.simple "success") = "success" := by
      cases hdialect : n.dialect <;> simp only [Naming.identifier, hdialect] <;> decide
    have hzero : (0 : Int16).toInt.repr = "0" := by decide +kernel
    refine ⟨false, throws, [e], thrown, hm.isVoid.trans (congrArg some hv), hthrows,
      hrecordFields, fun h => absurd h Bool.false_ne_true, fun _ => ⟨e, rfl, ?_, ?_⟩, hthrown hrest,
      hbare⟩
    · rw [hentries.name, successField, hsuccess]
    · rw [hentries.id, successField, hzero]

/-! ## Services -/

theorem Naming.identifier_of_notMem {n : Naming} {name : String} (h : name ∉ n.dialect.keywords) :
    n.identifier (.simple name) = name := by
  have hkeyword : n.dialect.isKeyword name = false := by
    rwa [Dialect.isKeyword, List.contains_eq_mem, decide_eq_false_iff_not]
  rw [identifier, Identifier.segments_simple, List.map_singleton, String.intercalate_singleton,
    Dialect.quoteKeyword, hkeyword, if_neg Bool.false_ne_true]

theorem Naming.identifier_append {n : Naming} {after : String} {c : Char} (hmem : c ∈ after.toList)
    (hlower : c.isLower = false) (hne : c ≠ 'S') (name : String) :
    n.identifier ((Identifier.simple name).append after) = name ++ after := by
  have happend : c ∈ (name ++ after).toList := by
    rw [String.toList_append]
    exact List.mem_append_right _ hmem
  exact identifier_of_notMem (Dialect.notMem_keywords happend hlower hne)

theorem Naming.identifier_prepend {n : Naming} {before : String}
    (h : ∀ k ∈ n.dialect.keywords, ¬ before.toList <+: k.toList) (name : String) :
    n.identifier ((Identifier.simple name).prepend before) = before ++ name := by
  refine identifier_of_notMem fun hmem => h _ hmem ⟨name.toList, ?_⟩
  rw [String.toList_append]

theorem Method.identifier_argsName (n : Naming) (m : Method) :
    n.identifier m.argsName = m.name.leaf.title.name ++ "Args" :=
  Naming.identifier_append (c := 'A') (by decide) rfl (by decide) _

theorem Method.identifier_resultName (n : Naming) (m : Method) :
    n.identifier m.resultName = m.name.leaf.title.name ++ "Result" :=
  Naming.identifier_append (c := 'R') (by decide) rfl (by decide) _

theorem Method.argsName_ne_resultName (n : Naming) (m m' : Method) :
    n.identifier m.argsName ≠ n.identifier m'.resultName := by
  intro h
  rw [identifier_argsName, identifier_resultName] at h
  have hlast := congrArg (fun s => s.toList.getLast?) h
  simp at hlast

/-- The structs of the methods before a method. -/
theorem length_flatMap_records (ms : List Method) :
    (ms.flatMap Method.records).length = ms.length + ms.countP (!·.oneway) := by
  induction ms with
  | nil => rfl
  | cons m ms ih =>
    rw [List.flatMap_cons, List.length_append, ih, List.countP_cons, List.length_cons,
      Method.records, Method.resultRecord?]
    cases m.oneway <;> simp <;> omega

theorem exists_argsRecord_of_head {ms : List Method} {r : Record}
    (h : (ms.flatMap Method.records)[0]? = some r) : ∃ m : Method, r = m.argsRecord := by
  cases ms with
  | nil => simp at h
  | cons m ms =>
    rw [List.flatMap_cons, Method.records, List.cons_append, List.getElem?_cons_zero] at h
    exact ⟨m, (Option.some.inj h).symm⟩

/-- From the structs of a method on there are its own and then those of the methods after it. -/
theorem getElem?_flatMap_records {ms : List Method} {i : Nat} {m : Method} (h : ms[i]? = some m)
    (j : Nat) :
    (ms.flatMap Method.records)[i + (ms.take i).countP (!·.oneway) + j]? =
      (m.records ++ (ms.drop (i + 1)).flatMap Method.records)[j]? := by
  obtain ⟨hlt, hget⟩ := List.getElem?_eq_some_iff.1 h
  have hsplit : ms.flatMap Method.records = (ms.take i).flatMap Method.records ++
      (m.records ++ (ms.drop (i + 1)).flatMap Method.records) := by
    rw [← List.flatMap_cons, ← List.flatMap_append, ← hget, List.getElem_cons_drop,
      List.take_append_drop]
  have hlength : ((ms.take i).flatMap Method.records).length =
      i + (ms.take i).countP (!·.oneway) := by
    rw [length_flatMap_records, List.length_take, Nat.min_eq_left (Nat.le_of_lt hlt)]
  rw [hsplit, ← hlength, List.getElem?_append_right (by omega), Nat.add_sub_cancel_left]

/-- Each method of a service has the struct of its arguments at a place that counts the methods
before it and, once more, those of them that have a result. The struct of its result is next, and
only a method without one is followed by something else. -/
theorem Service.function_structs {n : Naming} {package : Identifier} {inclusions : List Inclusion}
    {options : ServiceOptions} {s : Service} {dict : Dictionary}
    (h : s.dictionary n package inclusions options = .ok dict) :
    ∃ methods records, dict.list? "functions" = some methods ∧
      dict.list? "function_structs" = some records ∧ methods.length = s.methods.length ∧
      records.length = s.methods.length + s.methods.countP (!·.oneway) ∧
      ∀ i m, s.methods[i]? = some m → ∃ method, methods[i]? = some method ∧
        method.flag? "is_oneway" = some m.oneway ∧
        (∃ r, records[i + (s.methods.take i).countP (!·.oneway)]? = some r ∧
          IsArgumentsOf method r) ∧
        (m.oneway = false ↔
          ∃ r, records[i + (s.methods.take i).countP (!·.oneway) + 1]? = some r ∧
            IsResultOf n.dialect method r) := by
  simp only [dictionary, bind_eq_ok, mapM_eq_ok] at h
  obtain ⟨methods, hmethods, records, hrecords, h⟩ := h
  cases h
  have hms := forall₂_markEnds hmethods
  have hrs := forall₂_markEnds hrecords
  refine ⟨markEnds methods, markEnds records, rfl, rfl, hms.length_eq.symm, ?_, ?_⟩
  · rw [← hrs.length_eq, length_flatMap_records]
  intro i m hi
  obtain ⟨method, hmethod, d, hd, hmark⟩ := exists_getElem?_of_forall₂ hms hi
  have hm := Method.entries_of_dictionary hd hmark
  refine ⟨method, hmethod, hm.oneway, ?_, fun honeway => ?_, ?_⟩
  · have hplace := getElem?_flatMap_records hi 0
    obtain ⟨r, hr, e, he, hemark⟩ := exists_getElem?_of_forall₂ hrs hplace
    exact ⟨r, hr, Method.isArgumentsOf hm he hemark⟩
  · have hplace := getElem?_flatMap_records hi 1
    rw [Method.records, Method.resultRecord?, honeway] at hplace
    obtain ⟨r, hr, e, he, hemark⟩ := exists_getElem?_of_forall₂ hrs hplace
    exact ⟨r, hr, Method.isResultOf hm he hemark⟩
  · rintro ⟨r, hr, hresult⟩
    obtain ⟨record, hrecord, e, he, hemark⟩ := exists_getElem?_of_forall₂ (List.Forall₂.flip hrs) hr
    by_contra honeway
    rw [getElem?_flatMap_records hi 1, Method.records, Method.resultRecord?,
      if_pos (by simpa using honeway)] at hrecord
    obtain ⟨m', rfl⟩ := exists_argsRecord_of_head hrecord
    obtain ⟨text, hstruct, hname⟩ := hresult.name
    rw [hemark.code? (by decide) (by decide), (Record.body_entries he).1] at hname
    rw [hm.resultStruct] at hstruct
    exact Method.argsName_ne_resultName n m' m (Option.some.inj (hname.trans hstruct.symm))

/-- Two methods, the first of which is oneway and has no result: that of the second is third. -/
theorem Service.function_structs_monitor :
    let n : Naming := ⟨.scala, []⟩
    let s : Service := ⟨.simple "Monitor", none,
      [⟨.simple "ping", "ping", .onewayVoid, [], [], true⟩,
        ⟨.simple "count", "count", .i32, [⟨1, .simple "key", "key", .string, .unmarked, none⟩],
          [⟨1, .simple "gone", "gone", .struct (.simple "Gone"), .unmarked, none⟩], false⟩]⟩
    ∃ dict methods records, s.dictionary n (.simple "thrift") [] .none = .ok dict ∧
      dict.list? "functions" = some methods ∧ dict.list? "function_structs" = some records ∧
      records.length = 3 ∧ ∃ method r, methods[1]? = some method ∧ records[2]? = some r ∧
        IsResultOf .scala method r := by
  intro n s
  have hnone : fault? (s.dictionary n (.simple "thrift") [] .none) = none := by decide +kernel
  obtain ⟨dict, hdict⟩ := fault?_eq_none.1 hnone
  obtain ⟨methods, records, hmethods, hrecords, -, hlength, hplaces⟩ := function_structs hdict
  obtain ⟨method, hmethod, -, -, hresult⟩ := hplaces 1 _ rfl
  obtain ⟨r, hr, hof⟩ := hresult.1 rfl
  exact ⟨dict, methods, records, hdict, hmethods, hrecords, hlength, method, r, hmethod, hr, hof⟩

end StubForge
