import StubForge.Proofs.Stub.Signatures
import StubForge.Proofs.Stub.Unresolved

/-! The exceptions of a method in its signature: the types under which it declares and catches
them. An exception is thrown and caught under its own type, which the signature names exactly for
those that are not declared optional. -/
namespace StubForge

namespace Dialect

theorem length_lt_optionType (d : Dialect) (inner : String) :
    inner.length < (d.optionType inner).length := by
  have hopening : 0 < "Option[".length ∧ 0 < "Optional<".length := by decide
  cases d <;> simp only [optionType, String.length_append] <;> omega

theorem length_primitiveName_le (d : Dialect) (p : Primitive) :
    (d.primitiveName p false).length ≤ (d.primitiveName p true).length := by
  cases d <;> cases p <;> decide

end Dialect

namespace Naming

/-- Whether a type is boxed shows in its name only, and makes that no shorter. -/
theorem exists_typeName {n : Naming} {t : Ty} {boxed : String} (h : n.typeArg t false = .ok boxed) :
    ∃ plain, n.typeName t false = .ok plain ∧ plain.length ≤ boxed.length := by
  rw [typeArg] at h
  rw [typeName]
  have hprimitive (p : Primitive) (hp : (.ok (n.dialect.primitiveName p true) :
      Except Fault String) = .ok boxed) : ∃ plain, (.ok (n.dialect.primitiveName p false) :
      Except Fault String) = .ok plain ∧ plain.length ≤ boxed.length := by
    cases hp
    exact ⟨_, rfl, n.dialect.length_primitiveName_le p⟩
  cases t with
  | void => exact hprimitive .void h
  | onewayVoid => exact hprimitive .void h
  | bool => exact hprimitive .bool h
  | byte => exact hprimitive .byte h
  | i16 => exact hprimitive .i16 h
  | i32 => exact hprimitive .i32 h
  | i64 => exact hprimitive .i64 h
  | double => exact hprimitive .double h
  | string => exact hprimitive .string h
  | binary => exact hprimitive .binary h
  | reference id => cases h
  -- neither a named type nor a container is written in another way when it is boxed
  | _ => exact ⟨boxed, h, Nat.le_refl _⟩

/-- A type is never spelled like an option of it. -/
theorem optionType_ne {n : Naming} {t : Ty} {plain boxed : String}
    (hplain : n.typeName t false = .ok plain) (hboxed : n.typeArg t false = .ok boxed) :
    n.dialect.optionType boxed ≠ plain := by
  obtain ⟨name, hname, hle⟩ := exists_typeName hboxed
  cases hplain.symm.trans hname
  intro heq
  have hlt := n.dialect.length_lt_optionType boxed
  rw [heq] at hlt
  omega

end Naming

/-- The exceptions of the methods of a service in its dictionary, each as the field it is declared
as. -/
theorem Service.exists_exceptions {n : Naming} {package : Identifier} {inclusions : List Inclusion}
    {options : ServiceOptions} {s : Service} {dict : Dictionary}
    (h : s.dictionary n package inclusions options = .ok dict) :
    ∃ methods, dict.list? "functions" = some methods ∧
      List.Forall₂ (fun m method => ∃ throws, method.list? "throws" = some throws ∧
        List.Forall₂ (Field.Entries n) m.throws throws) s.methods methods := by
  obtain ⟨methods, records, hlist, -, hmethods, -⟩ := exists_items h
  exact ⟨methods, hlist, hmethods.imp fun m method hm => hm.throws⟩

/-- A method declares an exception under its own type exactly if the exception is not declared
optional. The type of one that is optional is that of a field which may be missing. -/
theorem Service.exception_types {n : Naming} {package : Identifier} {inclusions : List Inclusion}
    {options : ServiceOptions} {s : Service} {dict : Dictionary}
    (h : s.dictionary n package inclusions options = .ok dict) :
    ∃ methods, dict.list? "functions" = some methods ∧
      List.Forall₂ (fun m method => ∃ throws, method.list? "throws" = some throws ∧
        List.Forall₂ (fun f e => ∃ type, n.typeName f.ty false = .ok type ∧
            (e.code? "field_type" = some type ↔ f.isOptional = false) ∧
            (f.isOptional = true → ∃ boxed, n.typeArg f.ty false = .ok boxed ∧
              e.code? "field_type" = some (n.dialect.optionType boxed)))
          m.throws throws) s.methods methods := by
  obtain ⟨methods, hlist, hmethods⟩ := exists_exceptions h
  refine ⟨methods, hlist, hmethods.imp ?_⟩
  rintro m method ⟨throws, hthrows, hentries⟩
  refine ⟨throws, hthrows, hentries.imp ?_⟩
  intro f e hentry
  obtain ⟨type, htype, hcode⟩ := hentry.type
  rw [Naming.fieldType] at htype
  cases hoptional : f.isOptional with
  | false =>
    rw [hoptional, if_neg Bool.false_ne_true] at htype
    exact ⟨type, htype, ⟨fun _ => rfl, fun _ => hcode⟩, fun h => absurd h Bool.false_ne_true⟩
  | true =>
    rw [hoptional, if_pos rfl] at htype
    obtain ⟨boxed, hboxed, rfl⟩ := map_eq_ok.1 htype
    obtain ⟨plain, hplain, -⟩ := Naming.exists_typeName hboxed
    refine ⟨plain, hplain, ⟨fun hown => ?_, fun h => absurd h.symm Bool.false_ne_true⟩,
      fun _ => ⟨boxed, hboxed, hcode⟩⟩
    exact absurd (Option.some.inj (hcode.symm.trans hown)) (Naming.optionType_ne hplain hboxed)

/-- A method that may throw `Gone`, and a required `Busy`. -/
theorem Service.exception_types_monitor :
    let n : Naming := ⟨.java, []⟩
    let s : Service := ⟨.simple "Monitor", none, [⟨.simple "count", "count", .i32, [],
      [⟨1, .simple "gone", "gone", .struct (.simple "Gone"), .unmarked, none⟩,
        ⟨2, .simple "busy", "busy", .struct (.simple "Busy"), .required, none⟩], false⟩]⟩
    ∃ dict method gone busy, s.dictionary n (.simple "thrift") [] .none = .ok dict ∧
      dict.list? "functions" = some [method] ∧ method.list? "throws" = some [gone, busy] ∧
      gone.code? "field_type" = some "Gone" ∧ busy.code? "field_type" = some "Busy" := by
  intro n s
  have hnone : fault? (s.dictionary n (.simple "thrift") [] .none) = none := by decide +kernel
  have hnames : n.typeName (.struct (.simple "Gone")) false = .ok "Gone" ∧
      n.typeName (.struct (.simple "Busy")) false = .ok "Busy" := by decide +kernel
  obtain ⟨dict, hdict⟩ := fault?_eq_none.1 hnone
  obtain ⟨methods, hlist, hmethods⟩ := exception_types hdict
  obtain ⟨method, rfl, throws, hthrows, hentries⟩ := forall₂_singleton_left_iff.1 hmethods
  obtain ⟨gone, tail, ⟨goneType, hgone, hgoneOwn, -⟩, htail, rfl⟩ :=
    List.forall₂_cons_left_iff.1 hentries
  obtain ⟨busy, rfl, busyType, hbusy, hbusyOwn, -⟩ := forall₂_singleton_left_iff.1 htail
  cases hgone.symm.trans hnames.1
  cases hbusy.symm.trans hnames.2
  exact ⟨dict, method, gone, busy, hdict, hlist, hthrows, hgoneOwn.2 rfl, hbusyOwn.2 rfl⟩

/-- If `Gone` is declared optional, the method declares an option of it instead, which is no type
that can be thrown. -/
theorem Service.exception_type_optional :
    let n : Naming := ⟨.scala, []⟩
    let s : Service := ⟨.simple "Monitor", none, [⟨.simple "count", "count", .i32, [],
      [⟨1, .simple "gone", "gone", .struct (.simple "Gone"), .optional, none⟩], false⟩]⟩
    n.typeName (.struct (.simple "Gone")) false = .ok "Gone" ∧
      ∃ dict method gone, s.dictionary n (.simple "thrift") [] .none = .ok dict ∧
        dict.list? "functions" = some [method] ∧ method.list? "throws" = some [gone] ∧
        gone.code? "field_type" = some "Option[Gone]" := by
  intro n s
  have hnone : fault? (s.dictionary n (.simple "thrift") [] .none) = none := by decide +kernel
  have hname : n.typeName (.struct (.simple "Gone")) false = .ok "Gone" := by decide +kernel
  have hoption : n.fieldType ⟨1, .simple "gone", "gone", .struct (.simple "Gone"), .optional, none⟩
      false = .ok "Option[Gone]" := by decide +kernel
  obtain ⟨dict, hdict⟩ := fault?_eq_none.1 hnone
  obtain ⟨methods, hlist, hmethods⟩ := Service.exists_exceptions hdict
  obtain ⟨method, rfl, throws, hthrows, hentries⟩ := forall₂_singleton_left_iff.1 hmethods
  obtain ⟨gone, rfl, hgone⟩ := forall₂_singleton_left_iff.1 hentries
  obtain ⟨type, htype, hcode⟩ := hgone.type
  cases htype.symm.trans hoption
  exact ⟨hname, dict, method, gone, hdict, hlist, hthrows, hcode⟩

end StubForge
