import StubForge.Generation.Run
import StubForge.Proofs.Stub.Outlines

/-! The embedded templates agree with the dictionaries that are built for them: whatever a
construct's dictionary holds, its template renders. -/
namespace StubForge
open Template

/-- Both template sets pass the check against every dictionary that a file can have. -/
theorem templates_accept (d : Dialect) {name : String} {o : Outline}
    (h : (name, o) ∈ Outline.files) : d.templates.accepts 3 name [o] = true := by
  have hall : (Outline.files.all fun (name, o) => d.templates.accepts 3 name [o]) = true := by
    cases d <;> decide +kernel
  exact List.all_eq_true.1 hall (name, o) h

theorem Dialect.three_le_maxDepth (d : Dialect) : 3 ≤ d.templates.maxDepth := by
  cases d <;> decide

theorem templates_render (d : Dialect) {name : String} {o : Outline}
    (hname : (name, o) ∈ Outline.files) {dict : Dictionary} (h : FitsAll dict o) :
    ∃ text, d.templates.render name dict = .ok text :=
  d.templates.render_ok d.three_le_maxDepth h (templates_accept d hname)

theorem exists_header (d : Dialect) : ∃ text, d.templates.header = .ok text := by
  have hcheck : d.templates.accepts 1 "header" [[]] = true := by cases d <;> decide +kernel
  have hdepth : 1 ≤ d.templates.maxDepth := by cases d <;> decide
  have hempty : FitsAll [] [] := trivial
  exact d.templates.render_ok hdepth hempty hcheck

namespace Construct

theorem dictionary_fits {s : Setting} {c : Construct} {dict : Dictionary}
    (h : c.dictionary s = .ok dict) : ∃ o, (c.template, o) ∈ Outline.files ∧ FitsAll dict o := by
  cases c with
  | constants items => exact ⟨_, by simp [template, Outline.files], constantsDictionary_fits h⟩
  | enumeration e =>
    cases h
    exact ⟨_, by simp [template, Outline.files], e.dictionary_fits s.naming s.package⟩
  | record r =>
    refine ⟨_, ?_, Record.dictionary_fits h⟩
    by_cases hu : r.kind = .union <;> simp [template, hu, Outline.files]
  | service v =>
    refine ⟨_, ?_, Service.dictionary_fits h⟩
    cases v.parent.isSome <;> simp [template, Outline.files]

/-- Whatever the document, a construct that has a dictionary has a text: every key that its
template and the inserted ones interpolate is found in scope, as a text or a flag, and every
template that they insert is there. -/
theorem exists_text_of_dictionary {s : Setting} {c : Construct} {dict : Dictionary}
    (h : c.dictionary s = .ok dict) :
    ∃ text, s.naming.dialect.templates.render c.template dict = .ok text := by
  obtain ⟨o, hname, hfit⟩ := dictionary_fits h
  exact templates_render _ hname hfit

/-- A service with a parent in another document, whose one method throws and returns a container. -/
theorem exists_text_of_dictionary_search :
    let s : Setting := ⟨⟨.java, [("base", .parse "com.base")]⟩, .parse "com.case.api", [],
      ⟨true, true, false⟩⟩
    let c : Construct := .service ⟨.simple "Search", some ⟨.simple "Root", some (.simple "base")⟩,
      [⟨.simple "find", "Find", .map .i32 (.list .string),
        [⟨1, .simple "key", "key", .binary, .required, some (.string "a\"b")⟩],
        [⟨1, .simple "e", "e", .struct (.parse "base.Gone"), .unmarked, none⟩], false⟩]⟩
    ∃ dict text, c.dictionary s = .ok dict ∧
      s.naming.dialect.templates.render c.template dict = .ok text := by
  intro s c
  have hnone : fault? (c.dictionary s) = none := by decide +kernel
  obtain ⟨dict, hdict⟩ := fault?_eq_none.1 hnone
  obtain ⟨text, htext⟩ := exists_text_of_dictionary hdict
  exact ⟨dict, text, hdict, htext⟩

/-- Nothing but its dictionary can keep a construct from having a text. -/
theorem fault?_render (s : Setting) (c : Construct) :
    fault? (c.render s) =
      (fault? (c.dictionary s)).map (·.within s.naming.dialect.name c.stem) := by
  unfold render
  cases h : c.dictionary s with
  | error fault => rfl
  | ok dict =>
    obtain ⟨o, hname, hfit⟩ := dictionary_fits h
    obtain ⟨text, htext⟩ := templates_render s.naming.dialect hname hfit
    simp [htext, Except.mapError]

theorem render_eq_ok {s : Setting} {c : Construct} {text : String} : c.render s = .ok text ↔
    ∃ dict, c.dictionary s = .ok dict ∧
      s.naming.dialect.templates.render c.template dict = .ok text := by
  unfold render
  cases c.dictionary s with
  | error fault => simp
  | ok dict => simp [mapError_eq_ok]

end Construct
end StubForge
