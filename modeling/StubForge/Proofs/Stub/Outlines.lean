import StubForge.Proofs.Outcome
import StubForge.Proofs.Template.Outline
import StubForge.Stub.Constants
import StubForge.Stub.Enumerations
import StubForge.Stub.Services

/-! Outlines of the dictionaries that constants, enums, structs and services have. Only a few
entries depend on the document: the initial value and the methods of a field, and the parent of a
service. -/
namespace StubForge
open Template

namespace Template.Outline

def codes (keys : List String) : Outline := keys.map fun key => (key, .code)

def flags (keys : List String) : Outline := keys.map fun key => (key, .flag none)

/-- The outline of an item of a list whose ends are marked. -/
def marked (o : Outline) : Outline := o ++ flags ["first", "last"]

def inclusion : Outline := codes ["parent_package", "sub_package", "namespace", "alias"]

/-- What every file has: its package and its imports. -/
def file : Outline := [("package", .code), ("imports", .list [inclusion])]

def options : Outline := flags ["with_client", "with_server", "with_monitoring"]

def constant : Outline := codes ["name", "field_type", "value"]

def enumerator : Outline := codes ["name", "original_name", "value"]

def parameter : Outline := codes ["id", "field_name", "FieldName", "getter", "field_type"]

/-- A field with or without an initial value, and with or without methods of the protocol. -/
def field (initial methods : Bool) : Outline :=
  codes ["id", "index", "field_name", "FieldName", "getter", "field_name_for_wire", "field_const",
    "wire_tag", "wire_tag_code", "field_type", "primitive_field_type", "boxed_field_type"] ++
  flags ["is_primitive", "is_enum", "is_struct", "is_container", "required", "optional",
    "nullable"] ++
  codes ["default_read_value"] ++
  [("has_default_value", .flag (some initial))] ++
  (if initial then codes ["default_value"] else []) ++
  if methods then codes ["read_method", "write_method"] else []

def fields : List Outline :=
  [field false false, field false true, field true false, field true true]

def body : Outline :=
  codes ["StructName", "struct_name_for_wire"] ++
  flags ["is_union", "is_exception", "has_fields"] ++ [("fields", .list (fields.map marked))]

def method : Outline :=
  codes ["name", "name_for_wire", "FunctionName", "return_type", "return_type_arg"] ++
  flags ["is_void", "is_oneway", "has_args"] ++ [("args", .list [marked parameter])] ++
  codes ["arg_names", "args_struct", "result_struct"] ++
  flags ["has_throws"] ++ [("throws", .list [marked parameter])]

def constants : Outline := file ++ [("constants", .list [marked constant])]

def enumeration : Outline :=
  codes ["package", "EnumName"] ++ [("values", .list [marked enumerator])]

def record : Outline := body ++ file ++ options

def service (parent : Bool) : Outline :=
  codes ["package", "ServiceName"] ++ [("imports", .list [inclusion])] ++
  flags ["has_functions"] ++
  [("functions", .list [marked method]), ("function_structs", .list [marked body])] ++
  (if parent then [("parent", .dict (codes ["name"]))] else []) ++ options

/-- The templates of files, each with the outlines that its dictionary may have. -/
def files : List (String × Outline) := [
  ("consts", constants), ("enum", enumeration), ("struct", record), ("union", record),
  ("service", service false), ("service", service true)]

end Template.Outline

theorem fitsAll_mark {d : Dictionary} {o : Outline} (h : FitsAll d o)
    (hfirst : o.get? "first" = none) (hlast : o.get? "last" = none) (first last : Bool) :
    FitsAll ((d.insert "first" (.flag first)).insert "last" (.flag last)) (Outline.marked o) := by
  have hone : FitsAll (d.insert "first" (.flag first)) (o ++ [("first", .flag none)]) :=
    h.insert hfirst (.inl rfl)
  have hfree : Outline.get? (o ++ [("first", .flag none)]) "last" = none := by
    simp [Outline.get?_append, hlast, Outline.get?]
  have hboth : FitsAll ((d.insert "first" (.flag first)).insert "last" (.flag last))
      (o ++ [("first", .flag none)] ++ [("last", .flag none)]) := hone.insert hfree (.inl rfl)
  simpa [Outline.marked, Outline.flags] using hboth

/-- Marks on its ends add the same two flags to every item of a list. -/
theorem fitsEach_markEnds {items : List Dictionary} {alternatives : List Outline}
    (h : FitsEach items alternatives)
    (hfresh : ∀ o ∈ alternatives, o.get? "first" = none ∧ o.get? "last" = none) :
    FitsEach (Dictionary.markEnds items) (alternatives.map Outline.marked) := by
  have hmark : ∀ first, FitsEach (Dictionary.mark first items)
      (alternatives.map Outline.marked) := by
    induction items with
    | nil => exact fun _ => trivial
    | cons d r ih =>
      intro first
      obtain ⟨⟨o, ho, hd⟩, hr⟩ := h
      obtain ⟨hfirst, hlast⟩ := hfresh o ho
      have hmarked := fitsAll_mark hd hfirst hlast first r.isEmpty
      exact ⟨⟨Outline.marked o, List.mem_map_of_mem ho, hmarked⟩, ih hr false⟩
  exact hmark true

theorem fitsEach_markEnds_mapM {α : Type} {f : α → Except Fault Dictionary} {xs : List α}
    {ds : List Dictionary} {o : Outline} (h : xs.mapM f = .ok ds)
    (hf : ∀ x d, f x = .ok d → FitsAll d o) (hfirst : o.get? "first" = none)
    (hlast : o.get? "last" = none) : FitsEach (Dictionary.markEnds ds) [Outline.marked o] := by
  have hitems : FitsEach ds [o] := by
    induction mapM_eq_ok.1 h with
    | nil => trivial
    | cons hd _ ih => exact ⟨⟨o, by simp, hf _ _ hd⟩, ih (mapM_eq_ok.2 ‹_›)⟩
  exact fitsEach_markEnds hitems (by simp [hfirst, hlast])

/-! ## Constants and enums -/

theorem Naming.imports_fits (n : Naming) (inclusions : List Inclusion) :
    FitsEach (n.imports inclusions) [Outline.inclusion] := by
  refine fitsEach_iff.2 fun d hd => ⟨Outline.inclusion, by simp, ?_⟩
  obtain ⟨i, _, rfl⟩ := List.mem_map.1 hd
  simp [importEntry, Outline.inclusion, Outline.codes, FitsAll, Fits]

theorem Constant.dictionary_fits {n : Naming} {c : Constant} {d : Dictionary}
    (h : c.dictionary n = .ok d) : FitsAll d Outline.constant := by
  obtain ⟨type, _, hd⟩ := bind_eq_ok.1 h
  cases hd
  simp [Outline.constant, Outline.codes, FitsAll, Fits]

theorem constantsDictionary_fits {n : Naming} {package : Identifier} {inclusions : List Inclusion}
    {items : List Constant} {d : Dictionary}
    (h : constantsDictionary n package inclusions items = .ok d) :
    FitsAll d Outline.constants := by
  obtain ⟨ds, hds, hd⟩ := bind_eq_ok.1 h
  cases hd
  have hmarked := fitsEach_markEnds_mapM hds (fun _ _ => Constant.dictionary_fits) rfl rfl
  exact ⟨rfl, trivial, rfl, n.imports_fits inclusions, rfl, hmarked, trivial⟩

theorem Enumeration.dictionary_fits (n : Naming) (package : Identifier) (e : Enumeration) :
    FitsAll (e.dictionary n package) Outline.enumeration := by
  have hitems : FitsEach (e.members.map (·.dictionary n)) [Outline.enumerator] := by
    refine fitsEach_iff.2 fun d hd => ⟨Outline.enumerator, by simp, ?_⟩
    obtain ⟨m, _, rfl⟩ := List.mem_map.1 hd
    simp [Enumerator.dictionary, Outline.enumerator, Outline.codes, FitsAll, Fits]
  have hmarked := fitsEach_markEnds hitems (by decide)
  exact ⟨rfl, trivial, rfl, trivial, rfl, hmarked, trivial⟩

/-! ## Structs -/

theorem ServiceOptions.dictionary_fits (options : ServiceOptions) :
    FitsAll options.dictionary Outline.options := by
  simp [dictionary, ServiceOption.all, ServiceOption.flagName, Outline.options, Outline.flags,
    FitsAll, Fits]

theorem Field.methodEntries_fits {f : Field} {d : Dictionary} (h : f.methodEntries = .ok d) :
    ∃ methods : Bool,
      FitsAll d (if methods then Outline.codes ["read_method", "write_method"] else []) := by
  unfold methodEntries at h
  split at h
  · obtain ⟨read, _, h⟩ := bind_eq_ok.1 h
    obtain ⟨write, _, h⟩ := bind_eq_ok.1 h
    cases h
    exact ⟨true, by simp [Outline.codes, FitsAll, Fits]⟩
  · cases h
    exact ⟨false, trivial⟩

theorem Field.dictionary_fits {n : Naming} {index : Nat} {f : Field} {d : Dictionary}
    (h : f.dictionary n index = .ok d) : ∃ o ∈ Outline.fields, FitsAll d o := by
  simp only [dictionary, bind_eq_ok] at h
  obtain ⟨tag, _, type, _, plain, _, boxed, _, read, _, initial, _, methods, hm, hd⟩ := h
  cases hd
  obtain ⟨m, hmethods⟩ := methodEntries_fits hm
  refine ⟨Outline.field initial.isSome m, ?_, FitsAll.append ?_ hmethods⟩
  · cases initial <;> cases m <;> simp [Outline.fields]
  · cases initial <;> simp [Field.initialEntries, Outline.codes, Outline.flags, FitsAll, Fits]

theorem Field.dictionaries_fits {n : Naming} {index : Nat} {fs : List Field}
    {ds : List Dictionary} (h : dictionaries n index fs = .ok ds) : FitsEach ds Outline.fields := by
  induction fs generalizing index ds with
  | nil => cases h; trivial
  | cons f fs ih =>
    simp only [dictionaries, bind_eq_ok] at h
    obtain ⟨d, hd, r, hr, hds⟩ := h
    cases hds
    exact ⟨dictionary_fits hd, ih hr⟩

theorem Record.body_fits {n : Naming} {r : Record} {d : Dictionary} (h : r.body n = .ok d) :
    FitsAll d Outline.body := by
  obtain ⟨ds, hds, hd⟩ := bind_eq_ok.1 h
  cases hd
  have hmarked := fitsEach_markEnds (Field.dictionaries_fits hds) (by decide)
  exact ⟨rfl, trivial, rfl, trivial, rfl, .inl rfl, rfl, .inl rfl, rfl, .inl rfl, rfl, hmarked,
    trivial⟩

theorem Record.dictionary_fits {n : Naming} {package : Identifier} {inclusions : List Inclusion}
    {options : ServiceOptions} {r : Record} {d : Dictionary}
    (h : r.dictionary n package inclusions options = .ok d) : FitsAll d Outline.record := by
  obtain ⟨body, hbody, hd⟩ := bind_eq_ok.1 h
  cases hd
  have hfile : FitsAll [("package", .code (n.identifier package)),
      ("imports", .list (n.imports inclusions))] Outline.file :=
    ⟨rfl, trivial, rfl, n.imports_fits inclusions, trivial⟩
  exact ((body_fits hbody).append hfile).append options.dictionary_fits

/-! ## Services -/

theorem Field.parameter_fits {n : Naming} {f : Field} {d : Dictionary}
    (h : f.parameter n = .ok d) : FitsAll d Outline.parameter := by
  obtain ⟨type, _, hd⟩ := bind_eq_ok.1 h
  cases hd
  simp [Outline.parameter, Outline.codes, FitsAll, Fits]

theorem Field.parameters_fits {n : Naming} {fs : List Field} {ds : List Dictionary}
    (h : fs.mapM (·.parameter n) = .ok ds) :
    FitsEach (Dictionary.markEnds ds) [Outline.marked Outline.parameter] :=
  fitsEach_markEnds_mapM h (fun _ _ => parameter_fits) rfl rfl

theorem Method.dictionary_fits {n : Naming} {m : Method} {d : Dictionary}
    (h : m.dictionary n = .ok d) : FitsAll d Outline.method := by
  simp only [dictionary, bind_eq_ok] at h
  obtain ⟨args, hargs, throws, hthrows, returns, _, arg, _, hd⟩ := h
  cases hd
  have ha := Field.parameters_fits hargs
  have ht := Field.parameters_fits hthrows
  simp [Outline.method, Outline.codes, Outline.flags, FitsAll, Fits, ha, ht]

theorem Service.parentEntries_fits (n : Naming) (s : Service) :
    FitsAll (s.parentEntries n)
      (if s.parent.isSome then [("parent", .dict (Outline.codes ["name"]))] else []) := by
  cases hp : s.parent <;> simp [parentEntries, hp, Outline.codes, FitsAll, Fits]

theorem Service.dictionary_fits {n : Naming} {package : Identifier} {inclusions : List Inclusion}
    {options : ServiceOptions} {s : Service} {d : Dictionary}
    (h : s.dictionary n package inclusions options = .ok d) :
    FitsAll d (Outline.service s.parent.isSome) := by
  simp only [dictionary, bind_eq_ok] at h
  obtain ⟨methods, hm, records, hr, hd⟩ := h
  cases hd
  have hmethods := fitsEach_markEnds_mapM hm (fun _ _ => Method.dictionary_fits) rfl rfl
  have hrecords := fitsEach_markEnds_mapM hr (fun _ _ => Record.body_fits) rfl rfl
  refine (FitsAll.append ?_ (s.parentEntries_fits n)).append options.dictionary_fits
  exact ⟨rfl, trivial, rfl, trivial, rfl, n.imports_fits inclusions, rfl, .inl rfl, rfl, hmethods,
    rfl, hrecords, trivial⟩

end StubForge
