import StubForge.Proofs.Schema.Members

/-! Reading back names, numbers, types and values. What has a text of its own has to be read from it
unchanged. -/
namespace StubForge

/-! ## Names and doubles -/

/-- What a document holds that is read from a text of its own: a dotted name or a numeral. -/
inductive Atom
  | name (id : Identifier)
  | double (d : Binary64)

/-- The text of the atom is read as the atom. -/
def Atom.ReadsBack : Atom → Prop
  | name id => Identifier.parse id.fullName = id
  | double d => (Decimal.documentLayout.numeral d).toBinary64? = some d

def Ty.atoms : Ty → List Atom
  | enum id | struct id | reference id => [.name id]
  | list item | set item => item.atoms
  | map key value => key.atoms ++ value.atoms
  | _ => []

namespace Literal

mutual

def atoms : Literal → List Atom
  | .double d => [.double d]
  | .list items | .set items => atomsOfItems items
  | .map entries => atomsOfEntries entries
  | .enum enumeration member => [.name enumeration, .name member]
  | .id name => [.name name]
  | .null | .string _ | .int _ | .bool _ => []

def atomsOfItems : List Literal → List Atom
  | [] => []
  | v :: r => atoms v ++ atomsOfItems r

def atomsOfEntries : List (Literal × Literal) → List Atom
  | [] => []
  | (k, v) :: r => atoms k ++ (atoms v ++ atomsOfEntries r)

end

end Literal

open Writing

/-! ## Readers -/

namespace Reading

theorem readIdentifier_toJson {id : Identifier} (h : (Atom.name id).ReadsBack) :
    readIdentifier id.toJson = some id := congrArg some h

theorem readString_text (s : String) : readString (.text s) = some s := rfl

theorem readBool_bool (b : Bool) : readBool (.bool b) = some b := rfl

theorem readInt_int {low high i : Int} (hlow : low ≤ i) (hhigh : i ≤ high) :
    readInt low high (.int i) = some i := by
  rw [Json.int, readInt, Numeral.toInt?_ofInt, Option.filter_some, if_pos (by simp [hlow, hhigh])]

theorem readInt16_toInt (i : Int16) : readInt16 (.int i.toInt) = some i := by
  have hlow := i.le_toInt
  have hhigh := i.toInt_lt
  rw [readInt16, readInt_int (by omega) (by omega), Option.map_some, Int16.ofInt_toInt]

theorem readInt32_toInt (i : Int32) : readInt32 (.int i.toInt) = some i := by
  have hlow := i.le_toInt
  have hhigh := i.toInt_lt
  rw [readInt32, readInt_int (by omega) (by omega), Option.map_some, Int32.ofInt_toInt]

theorem readInt64_toInt (i : Int64) : readInt64 (.int i.toInt) = some i := by
  have hlow := i.le_toInt
  have hhigh := i.toInt_lt
  rw [readInt64, readInt_int (by omega) (by omega), Option.map_some, Int64.ofInt_toInt]

theorem readRequiredness_toJson (r : Requiredness) (depth : Nat) :
    readRequiredness depth r.toJson = some r := by
  cases r <;> rfl

theorem readRecordKind_toJson (k : RecordKind) (depth : Nat) :
    readRecordKind depth k.toJson = some k := by
  cases k <;> rfl

theorem readList_map {α : Type} {read : Nat → Json → Option α} {f : α → Json} {xs : List α}
    {depth : Nat} (hread : ∀ x ∈ xs, read depth (f x) = some x) :
    readList read (depth + 1) (.array (xs.map f)) = some xs :=
  mapM_of_forall₂ (List.forall₂_map_right_iff.2 (List.forall₂_same.2 hread))

theorem readPair_array {α : Type} {read : Nat → Json → Option α} {a b : α} {j k : Json}
    {depth : Nat} (ha : read depth j = some a) (hb : read depth k = some b) :
    readPair read (depth + 1) (.array [j, k]) = some (a, b) := by
  simp only [readPair, enter, ha, hb, Option.bind_eq_bind, Option.bind_some]

theorem readTy_toJson {ty : Ty} {limit depth : Nat} (hnesting : ty.toJson.nesting ≤ depth)
    (hlimit : depth < limit) (hatoms : ∀ a ∈ ty.atoms, a.ReadsBack) :
    readTy limit depth ty.toJson = some ty := by
  -- Not on the type: the limit goes down by one at each level, and the depth stays below it.
  induction limit generalizing ty depth with
  | zero => exact absurd hlimit (Nat.not_lt_zero _)
  | succ limit ih =>
    cases ty with
    | void | onewayVoid | bool | byte | i16 | i32 | i64 | double | string | binary => rfl
    | enum id =>
      obtain ⟨depth, rfl, -⟩ := Json.exists_of_nesting_choice hnesting
      change (readIdentifier id.toJson).map Ty.enum = _
      rw [readIdentifier_toJson (hatoms _ List.mem_cons_self), Option.map_some]
    | struct id =>
      obtain ⟨depth, rfl, -⟩ := Json.exists_of_nesting_choice hnesting
      change (readIdentifier id.toJson).map Ty.struct = _
      rw [readIdentifier_toJson (hatoms _ List.mem_cons_self), Option.map_some]
    | reference id =>
      obtain ⟨depth, rfl, -⟩ := Json.exists_of_nesting_choice hnesting
      change (readIdentifier id.toJson).map Ty.reference = _
      rw [readIdentifier_toJson (hatoms _ List.mem_cons_self), Option.map_some]
    | list item =>
      obtain ⟨depth, rfl, hitem⟩ := Json.exists_of_nesting_choice hnesting
      change (readTy limit depth item.toJson).map Ty.list = _
      rw [ih hitem (by omega) hatoms, Option.map_some]
    | set item =>
      obtain ⟨depth, rfl, hitem⟩ := Json.exists_of_nesting_choice hnesting
      change (readTy limit depth item.toJson).map Ty.set = _
      rw [ih hitem (by omega) hatoms, Option.map_some]
    | map key value =>
      obtain ⟨depth, rfl, hpair⟩ := Json.exists_of_nesting_choice hnesting
      obtain ⟨depth, rfl, hkey, hvalue⟩ := Json.exists_of_nesting_pair hpair
      obtain ⟨hkeyAtoms, hvalueAtoms⟩ := List.forall_mem_append.1 hatoms
      change (readPair (readTy limit) (depth + 1) (.array [key.toJson, value.toJson])).map
        (fun p => Ty.map p.1 p.2) = _
      rw [readPair_array (ih hkey (by omega) hkeyAtoms) (ih hvalue (by omega) hvalueAtoms),
        Option.map_some]

theorem toJsons_eq_map (items : List Literal) : Literal.toJsons items = items.map (·.toJson) := by
  induction items with
  | nil => rfl
  | cons v r ih => rw [Literal.toJsons, ih, List.map_cons]

theorem entriesToJson_eq_map (entries : List (Literal × Literal)) :
    Literal.entriesToJson entries =
      entries.map fun (k, v) => .array [k.toJson, v.toJson] := by
  induction entries with
  | nil => rfl
  | cons entry r ih => rw [Literal.entriesToJson, ih, List.map_cons]

theorem atomsOfItems_eq_flatMap (items : List Literal) :
    Literal.atomsOfItems items = items.flatMap (·.atoms) := by
  induction items with
  | nil => rfl
  | cons v r ih => rw [Literal.atomsOfItems, ih, List.flatMap_cons]

theorem atomsOfEntries_eq_flatMap (entries : List (Literal × Literal)) :
    Literal.atomsOfEntries entries = entries.flatMap fun (k, v) => k.atoms ++ v.atoms := by
  induction entries with
  | nil => rfl
  | cons entry r ih =>
    rw [Literal.atomsOfEntries, ih, List.flatMap_cons, List.append_assoc]

theorem readEnumValue_record {enumeration member : Identifier} {j : Json}
    (h : IsRecord [.required "enum_name" enumeration.toJson, .required "member" member.toJson] j)
    (hatoms : ∀ a ∈ (Literal.enum enumeration member).atoms, a.ReadsBack) (depth : Nat) :
    readEnumValue (depth + 1) j = some (.enum enumeration member) := by
  obtain ⟨henumerationAtom, hmemberAtom⟩ := List.forall_mem_cons.1 hatoms
  obtain ⟨vs, hvs, _ | ⟨henumeration, _ | ⟨hmember, _ | _⟩⟩⟩ :=
    exists_members? h ["enum_name", "member"] rfl (by decide)
  have henumeration := required_of_value henumeration (readIdentifier_toJson henumerationAtom)
  have hmember := required_of_value hmember
    (readIdentifier_toJson (hmemberAtom _ List.mem_cons_self))
  simp only [readEnumValue, enter, hvs, henumeration, hmember, Option.bind_eq_bind,
    Option.bind_some]

theorem readLiteral_toJson {v : Literal} {limit depth : Nat} (hnesting : v.toJson.nesting ≤ depth)
    (hlimit : depth < limit) (hatoms : ∀ a ∈ v.atoms, a.ReadsBack) :
    readLiteral limit depth v.toJson = some v := by
  induction limit generalizing v depth with
  | zero => exact absurd hlimit (Nat.not_lt_zero _)
  | succ limit ih =>
    have hlist (items : List Literal) (depth : Nat) (hdepth : depth < limit + 1)
        (hitems : (Json.array (Literal.toJsons items)).nesting ≤ depth)
        (hatoms : ∀ a ∈ Literal.atomsOfItems items, a.ReadsBack) :
        readList (readLiteral limit) depth (.array (Literal.toJsons items)) = some items := by
      obtain ⟨depth, rfl, hitem⟩ := Json.exists_of_nesting_array hitems
      rw [toJsons_eq_map] at hitem ⊢
      rw [atomsOfItems_eq_flatMap] at hatoms
      exact readList_map fun v hv => ih (hitem _ (List.mem_map_of_mem hv)) (by omega) fun a ha =>
        hatoms a (List.mem_flatMap.2 ⟨v, hv, ha⟩)
    cases v with
    | null => rfl
    | string s =>
      obtain ⟨depth, rfl, -⟩ := Json.exists_of_nesting_choice hnesting
      rfl
    | bool b =>
      obtain ⟨depth, rfl, -⟩ := Json.exists_of_nesting_choice hnesting
      rfl
    | double d =>
      obtain ⟨depth, rfl, -⟩ := Json.exists_of_nesting_choice hnesting
      exact congrArg (Option.map Literal.double) (hatoms _ List.mem_cons_self)
    | int i =>
      obtain ⟨depth, rfl, -⟩ := Json.exists_of_nesting_choice hnesting
      exact congrArg (Option.map Literal.int) (readInt64_toInt i)
    | list items =>
      obtain ⟨depth, rfl, hitems⟩ := Json.exists_of_nesting_choice hnesting
      exact congrArg (Option.map Literal.list) (hlist items depth (by omega) hitems hatoms)
    | set items =>
      obtain ⟨depth, rfl, hitems⟩ := Json.exists_of_nesting_choice hnesting
      exact congrArg (Option.map Literal.set) (hlist items depth (by omega) hitems hatoms)
    | map entries =>
      obtain ⟨depth, rfl, hentries⟩ := Json.exists_of_nesting_choice hnesting
      obtain ⟨depth, rfl, hpairs⟩ := Json.exists_of_nesting_array hentries
      rw [entriesToJson_eq_map] at hpairs
      replace hatoms : ∀ a ∈ Literal.atomsOfEntries entries, a.ReadsBack := hatoms
      rw [atomsOfEntries_eq_flatMap] at hatoms
      have hread : readList (readPair (readLiteral limit)) (depth + 1)
          (.array (Literal.entriesToJson entries)) = some entries := by
        rw [entriesToJson_eq_map]
        refine readList_map fun entry hentry => ?_
        obtain ⟨depth, rfl, hkey, hvalue⟩ :=
          Json.exists_of_nesting_pair (hpairs _ (List.mem_map_of_mem hentry))
        obtain ⟨hkeyAtoms, hvalueAtoms⟩ := List.forall_mem_append.1
          fun a ha => hatoms a (List.mem_flatMap.2 ⟨entry, hentry, ha⟩)
        exact readPair_array (ih hkey (by omega) hkeyAtoms)
          (ih hvalue (by omega) hvalueAtoms)
      exact congrArg (Option.map Literal.map) hread
    | enum enumeration member =>
      obtain ⟨depth, rfl, hrecord⟩ := Json.exists_of_nesting_choice hnesting
      obtain ⟨depth, rfl, -⟩ := Json.exists_of_nesting_record hrecord
      exact readEnumValue_record ⟨_, .present rfl (.present rfl .nil), rfl⟩ hatoms depth
    | id name =>
      obtain ⟨depth, rfl, -⟩ := Json.exists_of_nesting_choice hnesting
      exact congrArg (Option.map Literal.id) (readIdentifier_toJson (hatoms _ List.mem_cons_self))

end Reading
end StubForge
