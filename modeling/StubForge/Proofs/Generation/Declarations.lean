import StubForge.Proofs.Generation.Attribution
import StubForge.Proofs.Generation.Contents
import StubForge.Proofs.Generation.Inclusions
import StubForge.Proofs.Generation.WireNames

/-! Declarations and uses. Wherever the name of an enum or a struct of the document itself is used,
it is spelled as in its declaration, and so is a member of an enum. -/
namespace StubForge
open Dictionary

/-! ## Keywords -/

/-- Keywords start with small letters. -/
theorem Dialect.exists_head_of_keyword {d : Dialect} {k : String} (h : k ∈ d.keywords) :
    ∃ c rest, k.toList = c :: rest ∧ c.isLower = true := by
  have hsmall : ∀ k ∈ d.keywords, k.toList.head?.any (·.isLower) = true := by
    cases d <;> decide +kernel
  have hhead := hsmall k h
  cases hk : k.toList with
  | nil => simp [hk] at hhead
  | cons c rest => exact ⟨c, rest, rfl, by simpa [hk] using hhead⟩

/-- No name in title case is a keyword. -/
theorem Dialect.isKeyword_typeCase (d : Dialect) (id : Identifier) :
    d.isKeyword (d.typeCase id).name = false := by
  rw [typeCase, Identifier.title, Identifier.name_recase rfl, isKeyword, List.contains_eq_mem,
    decide_eq_false_iff_not]
  intro hmem
  obtain ⟨c, rest, hk, hc⟩ := exists_head_of_keyword hmem
  rw [String.toList_ofList] at hk
  rw [Text.isLower_of_titleCase hk] at hc
  cases hc

/-- A type that is declared under a simple name has that name, in title case, for its text. -/
theorem Naming.namedType_typeCase (n : Naming) (name : String) :
    n.namedType (n.dialect.typeCase (.simple name)) = (n.dialect.typeCase (.simple name)).name := by
  have hkeyword := n.dialect.isKeyword_typeCase (.simple name)
  have hnamed : n.namedType (n.dialect.typeCase (.simple name)) =
      n.dialect.quoteKeyword (n.dialect.typeCase (.simple name)).name := rfl
  rw [hnamed, Dialect.quoteKeyword, hkeyword, if_neg Bool.false_ne_true]

/-! ## Types and values around the names in them -/

/-- The name of a type, where `named` gives the texts of the enums and structs inside. -/
def Ty.spell (d : Dialect) (named : Identifier → String) (mutable boxed : Bool) : Ty → String
  | void | onewayVoid => d.primitiveName .void boxed
  | bool => d.primitiveName .bool boxed
  | byte => d.primitiveName .byte boxed
  | i16 => d.primitiveName .i16 boxed
  | i32 => d.primitiveName .i32 boxed
  | i64 => d.primitiveName .i64 boxed
  | double => d.primitiveName .double boxed
  | string => d.primitiveName .string boxed
  | binary => d.primitiveName .binary boxed
  | enum id | struct id | reference id => named id
  | list item => d.containerType .list [item.spell d named mutable true] mutable
  | set item => d.containerType .set [item.spell d named mutable true] mutable
  | map key value =>
    d.containerType .map [key.spell d named mutable true, value.spell d named mutable true] mutable

theorem Naming.renderType_eq_spell (n : Naming) (mutable : Bool) {t : Ty}
    (h : t.unresolved = []) (boxed : Bool) :
    n.renderType mutable boxed t = .ok (t.spell n.dialect n.namedType mutable boxed) := by
  induction t generalizing boxed with
  | list t ih =>
    rw [renderType, ih h]
    rfl
  | set t ih =>
    rw [renderType, ih h]
    rfl
  | map k v ihk ihv =>
    rw [Ty.unresolved_map, List.append_eq_nil_iff] at h
    rw [renderType, ihk h.1, ihv h.2]
    rfl
  | reference id => simp at h
  | _ => rfl

theorem Ty.spell_recase (d e : Dialect) (named : Identifier → String) (mutable : Bool) (t : Ty)
    (boxed : Bool) :
    (t.recase e).spell d named mutable boxed =
      t.spell d (fun id => named (e.typeCase id)) mutable boxed := by
  induction t generalizing boxed with
  | list t ih => rw [recase, spell, spell, ih]
  | set t ih => rw [recase, spell, spell, ih]
  | map k v ihk ihv => rw [recase, spell, spell, ihk, ihv]
  | _ => rfl

namespace Literal

mutual

/-- A value as an expression, where `member` gives the texts of the references to enums inside. -/
def spell (n : Naming) (member : Identifier → Identifier → String) (mutable : Bool) :
    Literal → String
  | .list items => n.dialect.sequenceLiteral .list (spellAll n member mutable items) mutable
  | .set items => n.dialect.sequenceLiteral .set (spellAll n member mutable items) mutable
  | .map entries => n.dialect.mapLiteral (spellEntries n member mutable entries) mutable
  | .enum enumeration m => member enumeration m
  | v => n.literal mutable v

def spellAll (n : Naming) (member : Identifier → Identifier → String) (mutable : Bool) :
    List Literal → List String
  | [] => []
  | v :: r => spell n member mutable v :: spellAll n member mutable r

def spellEntries (n : Naming) (member : Identifier → Identifier → String) (mutable : Bool) :
    List (Literal × Literal) → List (String × String)
  | [] => []
  | (k, v) :: r =>
    (spell n member mutable k, spell n member mutable v) :: spellEntries n member mutable r

end

section
variable (n : Naming) (d : Dialect) (mutable : Bool)

/-- The text of a reference to a member after casing. -/
def reference (enumeration m : Identifier) : String :=
  n.literal mutable ((Literal.enum enumeration m).recase d)

mutual

theorem literal_recase : ∀ v : Literal,
    n.literal mutable (recase d v) = spell n (reference n d mutable) mutable v
  | .null | .string _ | .double _ | .int _ | .bool _ | .enum _ _ | .id _ => rfl
  | .list items => by rw [recase, Naming.literal, spell, literals_recaseAll items]
  | .set items => by rw [recase, Naming.literal, spell, literals_recaseAll items]
  | .map entries => by rw [recase, Naming.literal, spell, literalEntries_recaseEntries entries]

theorem literals_recaseAll : ∀ vs : List Literal,
    n.literals mutable (recaseAll d vs) = spellAll n (reference n d mutable) mutable vs
  | [] => rfl
  | v :: r => by
    rw [recaseAll, Naming.literals, spellAll, literal_recase v, literals_recaseAll r]

theorem literalEntries_recaseEntries : ∀ es : List (Literal × Literal),
    n.literalEntries mutable (recaseEntries d es) =
      spellEntries n (reference n d mutable) mutable es
  | [] => rfl
  | (k, v) :: r => by
    rw [recaseEntries, Naming.literalEntries, spellEntries, literal_recase k, literal_recase v,
      literalEntries_recaseEntries r]

end

end

end Literal

/-! ## The values of a construct -/

/-- The values that a construct mentions: those of constants, and the defaults of fields, of
arguments and of exceptions. -/
def Construct.values : Construct → List Literal
  | constants items => items.map (·.value)
  | enumeration _ => []
  | record r => r.fields.filterMap (·.initial)
  | service s => s.methods.flatMap fun m => (m.args ++ m.throws).filterMap (·.initial)

theorem Construct.values_recase (d : Dialect) (k : Construct) :
    (k.recase d).values = k.values.map (·.recase d) := by
  have hinitials (fs : List Field) : (fs.map (·.recase d)).filterMap (·.initial) =
      (fs.filterMap (·.initial)).map (·.recase d) := by
    rw [List.filterMap_map, List.map_filterMap]
    rfl
  cases k with
  | constants items => simp [recase, values, Constant.recase]
  | enumeration e => rfl
  | record r => exact hinitials r.fields
  | service s =>
    simp only [recase, values, Service.recase, List.flatMap_map, List.map_flatMap, Method.recase,
      ← List.map_append, hinitials]

/-! ## Uses -/

/-- In all that the document mentions, once it is in the casing of the dialect, the text of the type
`id` is `text`. -/
def Setting.SpellsType (s : Setting) (doc : Document) (id : Identifier) (text : String) : Prop :=
  ∀ user ∈ doc.definitions.constructs, ∀ (i : Nat) (t : Ty), user.types[i]? = some t →
    t.unresolved = [] →
    ∃ cased, (user.recase s.naming.dialect).types[i]? = some cased ∧ ∀ mutable boxed,
      s.naming.renderType mutable boxed cased = .ok (t.spell s.naming.dialect
        (fun other => if other = id then text
          else s.naming.namedType (s.naming.dialect.typeCase other)) mutable boxed)

/-- In all that the document mentions, once it is in the casing of the dialect, the text of a member
of the enum `id` is as `text` says. -/
def Setting.SpellsMembers (s : Setting) (doc : Document) (id : Identifier)
    (text : Identifier → String) : Prop :=
  ∀ user ∈ doc.definitions.constructs, ∀ (i : Nat) (v : Literal), user.values[i]? = some v →
    ∃ cased, (user.recase s.naming.dialect).values[i]? = some cased ∧ ∀ mutable,
      s.naming.literal mutable cased = v.spell s.naming (fun other m => if other = id then text m
        else Literal.reference s.naming s.naming.dialect mutable other m) mutable

theorem Setting.spellsType (s : Setting) (doc : Document) (name : String) :
    s.SpellsType doc (.simple name) (s.naming.dialect.typeCase (.simple name)).name := by
  intro user _ i t ht hresolved
  refine ⟨t.recase s.naming.dialect, ?_, fun mutable boxed => ?_⟩
  · rw [Construct.types_recase, List.getElem?_map, ht, Option.map_some]
  · have hcased : (t.recase s.naming.dialect).unresolved = [] := by
      rw [Ty.unresolved_recase, hresolved, List.map_nil]
    rw [s.naming.renderType_eq_spell mutable hcased, Ty.spell_recase]
    congr 2
    funext other
    split
    · rename_i heq
      rw [heq, Naming.namedType_typeCase]
    · rfl

theorem Setting.spellsMembers (s : Setting) (doc : Document) (name : String) :
    s.SpellsMembers doc (.simple name) fun m =>
      (s.naming.dialect.typeCase (.simple name)).name ++ Dialect.scopeSeparator ++
        s.naming.dialect.quoteKeyword (s.naming.dialect.memberCase m).name := by
  intro user _ i v hv
  refine ⟨v.recase s.naming.dialect, ?_, fun mutable => ?_⟩
  · rw [Construct.values_recase, List.getElem?_map, hv, Option.map_some]
  · rw [Literal.literal_recase]
    congr 1
    funext other m
    split
    · rename_i heq
      rw [heq, Literal.reference, Literal.recase, Naming.literal, Naming.namedType_typeCase]
    · rfl

/-! ## Declarations -/

theorem Construct.typeCase_eq_stem {k : Construct} {id : Identifier} (h : k.typeName? = some id)
    (d : Dialect) : (d.typeCase id).name = (k.recase d).stem := by
  cases k with
  | enumeration e =>
    cases h
    rfl
  | record r =>
    cases h
    rfl
  | _ => cases h

theorem Enumeration.codes?_name (n : Naming) (package : Identifier) (e : Enumeration) :
    (e.dictionary n package).codes? "values" "name" =
      some (e.members.map fun m => n.identifier m.name) :=
  e.codes?_members n package (by decide) fun _ => rfl

/-- An enum or a struct that is declared under a name without a scope: the text of the name in its
dictionary is the stem of its file, and is what stands for the type wherever the document mentions
it, at any depth of a type. What stands for a member of the enum, at any depth of a value, is this
text and, after a dot, the text of the member in the dictionary. -/
theorem Construct.uses_spelled {d : Dialect} {options : ServiceOptions} {doc : Document} {i : Nat}
    {k : Construct} {name : String} (hi : doc.definitions.constructs[i]? = some k)
    (hname : k.typeName? = some (.simple name)) {dict : Dictionary}
    (hdict : (k.recase d).dictionary (.ofDocument d options (doc.recase d)) = .ok dict) :
    ∃ text, (dict.code? "StructName").or (dict.code? "EnumName") = some text ∧
      (∀ root file, (Plan.ofDocument d root options doc).files[i]? = some file →
        (k.recase d).render (.ofDocument d options (doc.recase d)) = .ok file.2 ∧
          file.1 = (Plan.ofDocument d root options doc).directory.join (text ++ d.fileExtension)) ∧
      (Setting.ofDocument d options (doc.recase d)).SpellsType doc (.simple name) text ∧
      ∀ e, k = .enumeration e → ∃ (entries : List String) (entry : Identifier → String),
        dict.codes? "values" "name" = some entries ∧
        (∀ (j : Nat) m member, e.members[j]? = some m → m.name = .simple member →
          entries[j]? = some (entry m.name)) ∧
        (Setting.ofDocument d options (doc.recase d)).SpellsMembers doc (.simple name) fun m =>
          text ++ Dialect.scopeSeparator ++ entry m := by
  let s := Setting.ofDocument d options (doc.recase d)
  have hcased : (k.recase d).typeName? = some (d.typeCase (.simple name)) := by
    rw [typeName?_recase, hname, Option.map_some]
  have htext : s.naming.identifier (d.typeCase (.simple name)) =
      (d.typeCase (.simple name)).name := s.naming.namedType_typeCase name
  obtain ⟨-, hcode⟩ := code?_dictionary hcased hdict
  refine ⟨(d.typeCase (.simple name)).name, hcode.trans (congrArg some htext), ?_,
    s.spellsType doc name, ?_⟩
  · intro root file hfile
    obtain ⟨k', hk', hrender, hpath⟩ := Plan.getElem?_files_ofDocument hfile
    obtain rfl : k = k' := Option.some.inj (hi.symm.trans hk')
    rw [typeCase_eq_stem hname]
    exact ⟨hrender, hpath⟩
  · rintro e rfl
    cases hdict
    refine ⟨_, fun m => d.quoteKeyword (d.memberCase m).name,
      Enumeration.codes?_name s.naming s.package (e.recase d), ?_, s.spellsMembers doc name⟩
    intro j m member hm hmember
    have hsimple : d.memberCase m.name = .simple (d.memberCase m.name).name := by
      rw [hmember]
      cases d <;> rfl
    rw [Enumeration.recase, List.map_map, List.getElem?_map, hm, Option.map_some]
    refine congrArg some ?_
    rw [Function.comp_apply, Enumerator.recase, hsimple, Naming.identifier_simple]
    rfl

/-- A list of the values of an enum that is declared in small letters. -/
theorem Construct.uses_spelled_color :
    let color : Enumeration := ⟨.simple "light_color", [⟨.simple "dark_red", "", 1⟩]⟩
    let dark : Literal := .enum (.simple "light_color") (.simple "dark_red")
    let doc : Document := .mk [] ⟨[⟨.simple "SHADES", .list (.enum (.simple "light_color")),
      .list [dark]⟩], [color], [], []⟩
    let s := Setting.ofDocument .java .none (doc.recase .java)
    ((Construct.enumeration color).recase .java).dictionary s =
        .ok (Enumeration.dictionary s.naming s.package (color.recase .java)) ∧
      s.naming.renderType false false ((Ty.list (.enum (.simple "light_color"))).recase .java) =
        .ok "List<LightColor>" ∧
      s.naming.literal false ((Literal.list [dark]).recase .java) =
        "List.of(LightColor.DARK_RED)" := by
  intro color dark doc s
  have hdict : ((Construct.enumeration color).recase .java).dictionary s =
      .ok (Enumeration.dictionary s.naming s.package (color.recase .java)) := rfl
  have hplace : doc.definitions.constructs[1]? = some (.enumeration color) := rfl
  obtain ⟨text, htext, -, htype, hmembers⟩ := uses_spelled hplace rfl hdict
  obtain ⟨entries, entry, hentries, hentry, hspell⟩ := hmembers color rfl
  have hname : "LightColor" = text := by
    refine Option.some.inj (Eq.trans ?_ htext)
    decide +kernel
  have hmember : entry (.simple "dark_red") = "DARK_RED" := by
    have hred := hentry 0 ⟨.simple "dark_red", "", 1⟩ "dark_red" rfl rfl
    have hlist : entries = ["DARK_RED"] := by
      refine Option.some.inj (hentries.symm.trans ?_)
      decide +kernel
    rw [hlist] at hred
    exact (Option.some.inj hred).symm
  have huser : Construct.constants _ ∈ doc.definitions.constructs := List.mem_cons_self
  obtain ⟨cased, hcased, hrender⟩ := htype _ huser 0 _ rfl rfl
  obtain ⟨value, hvalue, hliteral⟩ := hspell _ huser 0 _ rfl
  obtain rfl := Option.some.inj hcased
  obtain rfl := Option.some.inj hvalue
  refine ⟨hdict, (hrender false false).trans ?_, (hliteral false).trans ?_⟩
  · rw [← hname]
    decide +kernel
  · simp only [← hname, Literal.spell, Literal.spellAll, dark, hmember, if_true]
    decide +kernel

end StubForge
