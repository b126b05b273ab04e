import StubForge.Proofs.Generation.Contents
import StubForge.Proofs.Stub.Tame

/-! Brackets in generated files. A document may have any text for a string or for a name on the
wire: if its own names are plain, the brackets of every file nest. -/
namespace StubForge
open Text Template FileSystem

/-! ## Templates -/

def fileTemplates : List String := ["header", "consts", "enum", "struct", "union", "service"]

/-- Both template sets pass the check: on every way through a template that is taken to its end, the
brackets that it opens are closed. -/
theorem exists_spelled (d : Dialect) : ∃ spelled,
    Spelled.templates spelled = d.templates.templates ∧
      ∀ name ∈ fileTemplates, preserves sourceKeys spelled 3 name .start = true := by
  refine ⟨d.spelled.1, d.spelled.2, ?_⟩
  cases d <;> decide +kernel

theorem Dialect.neutral_render (d : Dialect) {name : String} (hname : name ∈ fileTemplates)
    {dict : Dictionary} (hdict : TameAll sourceKeys dict) {text : String}
    (h : d.templates.render name dict = .ok text) : Neutral text := by
  obtain ⟨spelled, hspelled, hcheck⟩ := exists_spelled d
  exact run_of_preserves hspelled (hcheck name hname) (List.forall_mem_singleton.2 hdict) h

theorem Dialect.neutral_header (d : Dialect) {text : String} (h : d.templates.header = .ok text) :
    Neutral text := by
  have hempty : TameAll sourceKeys [] := trivial
  exact d.neutral_render List.mem_cons_self hempty h

namespace Construct

theorem template_mem (k : Construct) : k.template ∈ fileTemplates := by
  cases k with
  | record r =>
    rw [template]
    split <;> decide
  | _ => simp [template, fileTemplates]

/-- The text of a construct with plain names, below the header. -/
theorem neutral_render {s : Setting} (hs : s.Plain) {k : Construct} (hk : k.Plain) {text : String}
    (h : k.render s = .ok text) : Neutral text := by
  obtain ⟨dict, hdict, hrender⟩ := render_eq_ok.1 h
  exact s.naming.dialect.neutral_render k.template_mem (dictionary_tame hs hk hdict) hrender

end Construct

/-! ## Files -/

theorem Plan.balanced_of_mem_contents {d : Dialect} {root : Path} {options : ServiceOptions}
    {doc : Document} (h : doc.PlainNames) :
    ∀ content ∈ (ofDocument d root options doc).contents, Balanced content := by
  obtain ⟨header, hheader⟩ := exists_header d
  have hplan : (ofDocument d root options doc).header = header := by
    simp only [ofDocument, hheader]
  refine List.forall_mem_map.2 fun file hfile => ?_
  obtain ⟨i, hi⟩ := List.getElem?_of_mem hfile
  obtain ⟨k, hk, hrender, -⟩ := getElem?_files_ofDocument hi
  have hplain := (h.definitions k (List.mem_of_getElem? hk)).recase d
  have hbody := Construct.neutral_render (h.setting d options) hplain hrender
  rw [hplan]
  exact ((d.neutral_header hheader).append hbody).balanced

/-- Whatever the strings and the names on the wire in a document with plain names are, the brackets
outside literals nest in all that is planned for it. After a run, whether it succeeded or not, every
file is one that was there before or has one of the planned contents, and each file that a
successful run reports has one of them. -/
theorem generate_balanced {doc : Document} (h : doc.PlainNames) (c : Config) (fs : FileSystem) :
    (∀ content ∈ (c.plan doc).contents, Balanced content) ∧
      (∀ l content, (generate c fs doc).1.node? l = some (.file content) →
        fs.node? l = some (.file content) ∨ content ∈ (c.plan doc).contents) ∧
      ∀ o, c.dryRun = false → (generate c fs doc).2 = .ok o → ∀ path ∈ o.files,
        ∃ content ∈ (c.plan doc).contents, (generate c fs doc).1.read path = .ok content := by
  refine ⟨Plan.balanced_of_mem_contents h, generate_onlyNew c fs doc, fun o hdry ho => ?_⟩
  rw [generate, if_neg (Bool.eq_false_iff.1 hdry)] at ho ⊢
  exact Plan.exists_read_of_carryOut ho

/-- A constant and a wire name that would open and close brackets if they were not quoted. -/
theorem generate_balanced_signs :
    let sign : Constant := ⟨.simple "SIGN", .list .string,
      .list [.string "\"\x7d", .string "[\\"]⟩
    let mark : Record := ⟨.simple "mark", .struct,
      [⟨1, .simple "left_side", "(\"", .enum (.parse "base.side"), .required, none⟩]⟩
    let doc : Document := .mk [] ⟨[sign], [], [mark], []⟩
    let start : FileSystem := ⟨[], [], fun _ _ => false⟩
    let c : Config := ⟨.scala, ⟨"out"⟩, .none, false⟩
    doc.PlainNames ∧ ∃ content, Balanced content ∧
      (generate c start doc).1.read ⟨"out/thrift/Mark.scala"⟩ = .ok content := by
  intro sign mark doc start c
  have hside : (Identifier.parse "base.side").Plain := by decide +kernel
  have hsign : sign.Plain := ⟨by decide +kernel, trivial, trivial, trivial, trivial⟩
  have hmark : mark.Plain :=
    ⟨by decide +kernel, List.forall_mem_singleton.2 ⟨by decide +kernel, hside, nofun⟩⟩
  have hdoc : doc.PlainNames := by
    refine ⟨nofun, nofun, List.forall_mem_cons.2 ⟨?_, List.forall_mem_singleton.2 hmark⟩⟩
    exact List.forall_mem_singleton.2 hsign
  have hok : (generate c start doc).2 = .ok ⟨.simple "thrift",
      [⟨"out/thrift/Constants.scala"⟩, ⟨"out/thrift/Mark.scala"⟩]⟩ := by decide +kernel
  obtain ⟨hbalanced, -, hread⟩ := generate_balanced hdoc c start
  obtain ⟨content, hcontent, hfile⟩ := hread _ rfl hok _ (List.mem_cons_of_mem _ List.mem_cons_self)
  exact ⟨hdoc, content, hbalanced content hcontent, hfile⟩

end StubForge
