import StubForge.Proofs.Generation.TitleNames
import StubForge.Proofs.Text.Words

/-! Constants of fields. Each field of a struct has a constant of its name in capitals, and the words
there are all that such a name keeps. -/
namespace StubForge
open Dictionary

/-- The words of a name in capitals. -/
def Field.shoutWords (f : Field) : List (List Char) :=
  (Text.words f.name.name.toList).map Text.shoutWord

theorem Naming.identifier_constantName (n : Naming) (f : Field) :
    n.identifier f.constantName =
      String.ofList (Text.shoutCase f.name.name.toList) ++ "_FIELD" :=
  identifier_append (c := '_') (by decide) rfl (by decide) _

/-- Two fields have one constant exactly if their names have the same words in capitals. -/
theorem Field.constantName_eq_iff {n : Naming} {f g : Field} :
    n.identifier f.constantName = n.identifier g.constantName ↔ f.shoutWords = g.shoutWords := by
  rw [Naming.identifier_constantName, Naming.identifier_constantName, String.append_left_inj,
    String.ofList_inj, Text.shoutCase_eq_iff]
  rfl

theorem Record.codes?_constantName {n : Naming} {package : Identifier}
    {inclusions : List Inclusion} {options : ServiceOptions} {r : Record} {dict : Dictionary}
    (h : r.dictionary n package inclusions options = .ok dict) :
    dict.codes? "fields" "field_const" = some (r.fields.map fun f => n.identifier f.constantName) := by
  obtain ⟨body, hbody, hdict⟩ := exists_body_of_dictionary h
  exact codes?_fields hbody hdict fun f item hitem => hitem.declared.constant

/-! ## Names and their words -/

/-- A plain name with a small letter first, where each capital has a small letter behind it or ends
the name. -/
def Identifier.IsHumped (id : Identifier) : Prop :=
  ∃ name, id = simple name ∧ Text.isHumped name.toList = true

/-- Such a name is got back from its words in capitals. -/
theorem Field.name_eq_of_shoutWords {f g : Field} (hf : f.name.IsHumped) (hg : g.name.IsHumped)
    (h : f.shoutWords = g.shoutWords) : f.name = g.name := by
  obtain ⟨name, hname, hf⟩ := hf
  obtain ⟨name', hname', hg⟩ := hg
  rw [shoutWords, shoutWords, hname, hname', Identifier.name_simple, Identifier.name_simple] at h
  have hcase := congrArg Text.camelCase (Text.shoutCase_eq_iff.2 h)
  rw [Text.camelCase_shoutCase hf, Text.camelCase_shoutCase hg] at hcase
  rw [hname, hname', String.toList_inj.1 hcase]

/-- The fields of a struct have different constants exactly if no two of their names have the same
words in capitals. Different names have different words if each of them starts with a small letter,
and each capital in it starts a word. -/
theorem Record.field_constants {n : Naming} {package : Identifier} {inclusions : List Inclusion}
    {options : ServiceOptions} {r : Record} {dict : Dictionary}
    (h : r.dictionary n package inclusions options = .ok dict) :
    ∃ constants, dict.codes? "fields" "field_const" = some constants ∧
      (constants.Nodup ↔ (r.fields.map Field.shoutWords).Nodup) ∧
      ((∀ f ∈ r.fields, f.name.IsHumped) → (r.fields.map (·.name)).Nodup → constants.Nodup) := by
  have hwords : (r.fields.map fun f => n.identifier f.constantName).Nodup ↔
      (r.fields.map Field.shoutWords).Nodup :=
    nodup_map_iff fun f _ g _ => Field.constantName_eq_iff
  refine ⟨_, codes?_constantName h, hwords, fun hhumped hnames => hwords.2 ?_⟩
  have hsame : (r.fields.map Field.shoutWords).Nodup ↔ (r.fields.map (·.name)).Nodup := by
    refine nodup_map_iff fun f hf g hg => ?_
    constructor
    · exact Field.name_eq_of_shoutWords (hhumped f hf) (hhumped g hg)
    · intro heq
      rw [Field.shoutWords, heq, Field.shoutWords]
  exact hsame.2 hnames

/-- Two names that start with one word. -/
theorem Record.field_constants_user :
    let n : Naming := ⟨.scala, []⟩
    let r : Record := ⟨.simple "User", .struct, [⟨1, .simple "userId", "", .i64, .unmarked, none⟩,
      ⟨2, .simple "userName", "", .string, .unmarked, none⟩]⟩
    ∃ dict constants, r.dictionary n (.simple "thrift") [] .none = .ok dict ∧
      dict.codes? "fields" "field_const" = some constants ∧ constants.Nodup := by
  intro n r
  have hnone : fault? (r.dictionary n (.simple "thrift") [] .none) = none := by decide +kernel
  obtain ⟨dict, hdict⟩ := fault?_eq_none.1 hnone
  obtain ⟨constants, hconstants, -, hdistinct⟩ := field_constants hdict
  have hhumped : ∀ f ∈ r.fields, f.name.IsHumped := by
    have hid : Text.isHumped "userId".toList = true := by decide +kernel
    have hname : Text.isHumped "userName".toList = true := by decide +kernel
    simp only [r, List.forall_mem_cons]
    exact ⟨⟨_, rfl, hid⟩, ⟨_, rfl, hname⟩, List.forall_mem_nil _⟩
  have hnames : (r.fields.map (·.name)).Nodup := by decide +kernel
  exact ⟨dict, constants, hdict, hconstants, hdistinct hhumped hnames⟩

/-- An underscore before a name keeps it apart in camel case, and is lost in capitals. -/
theorem Record.field_constants_clash :
    let n : Naming := ⟨.scala, []⟩
    let doc : Document := .mk [] ⟨[], [], [⟨.simple "user", .struct,
      [⟨1, .simple "_id", "", .i64, .unmarked, none⟩, ⟨2, .simple "id", "", .i64, .unmarked, none⟩]⟩],
      []⟩
    ∃ r dict, (doc.recase .scala).definitions.records = [r] ∧
      r.fields.map (·.name) = [.simple "_id", .simple "id"] ∧ (r.fields.map (·.name)).Nodup ∧
      r.dictionary n (.simple "thrift") [] .none = .ok dict ∧
      dict.codes? "fields" "field_const" = some ["ID_FIELD", "ID_FIELD"] := by
  intro n doc
  let r : Record := ⟨.simple "User", .struct, [⟨1, .simple "_id", "_id", .i64, .unmarked, none⟩,
    ⟨2, .simple "id", "id", .i64, .unmarked, none⟩]⟩
  have hrecords : (doc.recase .scala).definitions.records = [r] := by decide +kernel
  have hnone : fault? (r.dictionary n (.simple "thrift") [] .none) = none := by decide +kernel
  obtain ⟨dict, hdict⟩ := fault?_eq_none.1 hnone
  have hconstants : (r.fields.map fun f => n.identifier f.constantName) =
      ["ID_FIELD", "ID_FIELD"] := by decide +kernel
  refine ⟨r, dict, hrecords, rfl, by decide +kernel, hdict, ?_⟩
  rw [codes?_constantName hdict, hconstants]

end StubForge
