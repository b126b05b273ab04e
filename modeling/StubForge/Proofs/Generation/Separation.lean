import StubForge.Proofs.Generation.Confinement
import StubForge.Proofs.Generation.Inclusions

/-! Separate compilation: of an included document only its local name and its package reach the
output, and of the other constructs of a document nothing does. -/
namespace StubForge

/-! ## Stubs of included documents -/

/-- The scope that counts before all others. -/
def Dialect.firstScope (d : Dialect) : String := d.packageScopes.headD "*"

namespace Document

/-- A document of nothing but a package. -/
def bare (d : Dialect) (package : Identifier) : Document :=
  .mk [.package d.firstScope package] ⟨[], [], [], []⟩

/-- A document of nothing but the package that `doc` has in the dialect. -/
def stub (d : Dialect) (doc : Document) : Document := bare d (doc.packageFor d)

def stubHeader (d : Dialect) : Header Document → Header Document
  | .inclusion localName document => .inclusion localName (document.stub d)
  | .package scope id => .package scope id

/-- The document with a stub in the place of each document that it includes. -/
def withStubs (d : Dialect) (doc : Document) : Document :=
  .mk (doc.headers.map (stubHeader d)) doc.definitions

theorem packageFor_bare (d : Dialect) (package : Identifier) :
    (bare d package).packageFor d = package := by
  have hfirst : (bare d package).package? d.firstScope = some package := if_pos rfl
  have hscopes : d.packageScopes = d.firstScope :: d.packageScopes.tail := by cases d <;> rfl
  rw [packageFor, hscopes, List.findSome?_cons, hfirst, Option.getD_some]

theorem packageIn?_stubs (d : Dialect) (scope : String) (headers : List (Header Document)) :
    packageIn? scope (headers.map (stubHeader d)) = packageIn? scope headers := by
  induction headers with
  | nil => rfl
  | cons header headers ih =>
    cases header with
    | inclusion localName document => exact ih
    | package s id => rw [List.map_cons, stubHeader, packageIn?, packageIn?, ih]

theorem packageFor_withStubs (d : Dialect) (doc : Document) :
    (doc.withStubs d).packageFor d = doc.packageFor d := by
  have hpackage : (doc.withStubs d).package? = doc.package? :=
    funext fun scope => packageIn?_stubs d scope doc.headers
  rw [packageFor, packageFor, hpackage]

theorem inclusions_withStubs (d : Dialect) (doc : Document) :
    (doc.withStubs d).inclusions =
      doc.inclusions.map fun i => ⟨i.localName, i.document.stub d⟩ := by
  rw [inclusions, inclusions, withStubs, headers_mk]
  induction doc.headers with
  | nil => rfl
  | cons header headers ih =>
    cases header with
    | inclusion localName document => exact congrArg (_ :: ·) ih
    | package scope id => exact ih

end Document

/-! ## What reaches the output -/

/-- All that the output has of an included document. -/
def Inclusion.face (d : Dialect) (i : Inclusion) : Identifier × Identifier :=
  (i.localName, i.document.packageFor d)

namespace Document

/-- The faces of the included documents, in their order. -/
def faces (d : Dialect) (doc : Document) : List (Identifier × Identifier) :=
  doc.inclusions.map (·.face d)

theorem faces_recase (d : Dialect) (doc : Document) : (doc.recase d).faces d = doc.faces d := by
  rw [faces, inclusions_recase, List.map_map]
  refine List.map_congr_left fun i _ => ?_
  rw [Function.comp_apply, Inclusion.face, packageFor_recase, Inclusion.face]

theorem faces_withStubs (d : Dialect) (doc : Document) :
    (doc.withStubs d).faces d = doc.faces d := by
  rw [faces, inclusions_withStubs, List.map_map]
  refine List.map_congr_left fun i _ => ?_
  rw [Function.comp_apply, Inclusion.face, stub, packageFor_bare, Inclusion.face]

end Document

theorem Naming.ofInclusions_eq_faces (d : Dialect) (inclusions : List Inclusion) :
    ofInclusions d inclusions = ⟨d, ((inclusions.map (·.face d)).map
      fun (localName, package) => (localName.fullName, package)).reverse⟩ := by
  rw [ofInclusions, List.map_map]
  rfl

theorem Naming.imports_eq_faces (n : Naming) (inclusions : List Inclusion) :
    n.imports inclusions = (inclusions.map (·.face n.dialect)).map
      fun (localName, package) => n.importEntry ⟨localName, .bare n.dialect package⟩ := by
  rw [imports, List.map_map]
  refine List.map_congr_left fun i _ => ?_
  simp only [Function.comp_apply, Inclusion.face, importEntry, Document.packageFor_bare]

/-- Two settings in which every text is the same. -/
structure Setting.Alike (s t : Setting) : Prop where
  naming : s.naming = t.naming
  package : s.package = t.package
  imports : s.naming.imports s.inclusions = t.naming.imports t.inclusions
  options : s.options = t.options

theorem Setting.alike_recased {d : Dialect} (options : ServiceOptions) {doc other : Document}
    (hfaces : doc.faces d = other.faces d) (hpackage : doc.packageFor d = other.packageFor d) :
    (ofDocument d options (doc.recase d)).Alike (ofDocument d options (other.recase d)) := by
  rw [← doc.faces_recase, ← other.faces_recase, Document.faces, Document.faces] at hfaces
  rw [← doc.packageFor_recase, ← other.packageFor_recase] at hpackage
  have hnaming : Naming.ofInclusions d (doc.recase d).inclusions =
      Naming.ofInclusions d (other.recase d).inclusions := by
    rw [Naming.ofInclusions_eq_faces, Naming.ofInclusions_eq_faces, hfaces]
  refine ⟨hnaming, hpackage, ?_, rfl⟩
  have hdialect : (Naming.ofInclusions d (other.recase d).inclusions).dialect = d := rfl
  simp only [ofDocument, hnaming, Naming.imports_eq_faces, hdialect, hfaces]

namespace Construct

theorem dictionary_congr {s t : Setting} (h : s.Alike t) (k : Construct) :
    k.dictionary s = k.dictionary t := by
  have himports := h.imports
  rw [h.naming] at himports
  cases k with
  | constants items =>
    simp only [dictionary, constantsDictionary, himports, h.naming, h.package]
  | enumeration e => simp only [dictionary, h.naming, h.package]
  | record r =>
    simp only [dictionary, Record.dictionary, himports, h.naming, h.package, h.options]
  | service v =>
    simp only [dictionary, Service.dictionary, himports, h.naming, h.package, h.options]

theorem render_congr {s t : Setting} (h : s.Alike t) (k : Construct) :
    k.render s = k.render t := by
  simp only [render, dictionary_congr h k, h.naming]

end Construct

theorem Plan.renderAll_congr {s t : Setting} (h : s.Alike t) (directory : Path)
    (ks : List Construct) : renderAll s directory ks = renderAll t directory ks := by
  induction ks with
  | nil => rfl
  | cons k ks ih => simp only [renderAll, Construct.render_congr h, ih, h.naming]

/-- What is planned depends on the definitions of a document, on its package, and on the faces of
what it includes. -/
theorem Plan.ofDocument_congr {d : Dialect} {doc other : Document}
    (hdefinitions : doc.definitions = other.definitions) (hfaces : doc.faces d = other.faces d)
    (hpackage : doc.packageFor d = other.packageFor d) (root : Path) (options : ServiceOptions) :
    ofDocument d root options doc = ofDocument d root options other := by
  have halike := Setting.alike_recased options hfaces hpackage
  simp only [ofDocument, Document.definitions_recase, hdefinitions, halike.package,
    renderAll_congr halike]

theorem Plan.header_congr (d : Dialect) (root : Path) (options options' : ServiceOptions)
    (doc other : Document) :
    (ofDocument d root options doc).header = (ofDocument d root options' other).header := by
  obtain ⟨header, hheader⟩ := exists_header d
  simp only [ofDocument, hheader]

/-- A construct that two documents share has the same file in both, if they have the same package
and include the same faces. -/
theorem Plan.file_congr {d : Dialect} {root : Path} {options : ServiceOptions}
    {doc other : Document} (hfaces : doc.faces d = other.faces d)
    (hpackage : doc.packageFor d = other.packageFor d) {k : Construct} {i j : Nat}
    (hi : doc.definitions.constructs[i]? = some k) (hj : other.definitions.constructs[j]? = some k)
    {file file' : Path × String} (hfile : (ofDocument d root options doc).files[i]? = some file)
    (hfile' : (ofDocument d root options other).files[j]? = some file') : file = file' := by
  obtain ⟨first, hfirst, hrender, hpath⟩ := getElem?_files_ofDocument hfile
  obtain ⟨second, hsecond, hrender', hpath'⟩ := getElem?_files_ofDocument hfile'
  obtain rfl : first = k := Option.some.inj (hfirst.symm.trans hi)
  obtain rfl : second = first := Option.some.inj (hsecond.symm.trans hj)
  rw [Construct.render_congr (Setting.alike_recased options hfaces hpackage), hrender'] at hrender
  rw [directory_ofDocument, hpackage, ← directory_ofDocument, ← hpath'] at hpath
  exact Prod.ext hpath (Except.ok.inj hrender).symm

/-! ## Separate compilation -/

/-- With stubs for the documents that it includes, a document is generated as before, down to the
faults and the contents of the files. And under the same headers a construct has the same file
whatever is declared beside it. -/
theorem generate_separate (c : Config) (doc : Document) :
    (c.plan (doc.withStubs c.dialect) = c.plan doc ∧
      ∀ fs, generate c fs (doc.withStubs c.dialect) = generate c fs doc) ∧
    ∀ other : Document, other.headers = doc.headers → ∀ (k : Construct) (i j : Nat),
      doc.definitions.constructs[i]? = some k → other.definitions.constructs[j]? = some k →
      ∀ file file', (c.plan doc).files[i]? = some file → (c.plan other).files[j]? = some file' →
        file = file' ∧ (c.plan doc).header = (c.plan other).header := by
  have hdefinitions : (doc.withStubs c.dialect).definitions = doc.definitions := rfl
  have hplan : c.plan (doc.withStubs c.dialect) = c.plan doc :=
    Plan.ofDocument_congr hdefinitions (doc.faces_withStubs c.dialect)
      (doc.packageFor_withStubs c.dialect) c.root c.options
  refine ⟨⟨hplan, fun fs => by rw [generate, generate, hplan]⟩, ?_⟩
  intro other hheaders k i j hi hj file file' hfile hfile'
  have hfaces : other.faces c.dialect = doc.faces c.dialect := by
    rw [Document.faces, Document.faces, Document.inclusions, Document.inclusions, hheaders]
  have hpackage : other.packageFor c.dialect = doc.packageFor c.dialect := by
    have hpackage : other.package? = doc.package? := by
      funext scope
      rw [Document.package?, Document.package?, hheaders]
    rw [Document.packageFor, Document.packageFor, hpackage]
  have hheader := Plan.header_congr c.dialect c.root c.options c.options doc other
  exact ⟨Plan.file_congr hfaces.symm hpackage.symm hi hj hfile hfile', hheader⟩

/-- A struct that uses an enum of an included document, alone and beside an enum. -/
theorem generate_separate_line :
    let shared : Document := .mk [.package "*" (.parse "geo"), .package "java" (.parse "com.geo")]
      ⟨[], [⟨.simple "color", [⟨.simple "red", "", 1⟩]⟩], [], []⟩
    let headers := [Header.inclusion (.parse "shared") shared, .package "java" (.parse "app")]
    let line : Record :=
      ⟨.simple "line", .struct,
        [⟨1, .simple "color", "", .enum (.parse "shared.color"), .unmarked, none⟩]⟩
    let doc : Document := .mk headers ⟨[], [], [line], []⟩
    let other : Document := .mk headers ⟨[], [⟨.simple "side", []⟩], [line], []⟩
    let c : Config := ⟨.java, ⟨"out"⟩, .none, true⟩
    ∃ file, (c.plan doc).files[0]? = some file ∧ (c.plan other).files[1]? = some file ∧
      (c.plan (doc.withStubs .java)).files[0]? = some file ∧
      doc.withStubs .java ≠ doc := by
  intro shared headers line doc other c
  have hdoc : (c.plan doc).files[0]?.isSome = true := by decide +kernel
  have hother : (c.plan other).files[1]?.isSome = true := by decide +kernel
  obtain ⟨file, hfile⟩ := Option.isSome_iff_exists.1 hdoc
  obtain ⟨file', hfile'⟩ := Option.isSome_iff_exists.1 hother
  obtain ⟨⟨hplan, -⟩, hsame⟩ := generate_separate c doc
  obtain ⟨rfl, -⟩ := hsame other rfl (.record line) 0 1 rfl rfl file file' hfile hfile'
  have hstubs : (c.plan (doc.withStubs .java)).files[0]? = some file := by
    have hdialect : doc.withStubs .java = doc.withStubs c.dialect := rfl
    rw [hdialect, hplan, hfile]
  exact ⟨file, hfile, hfile', hstubs, by decide +kernel⟩

end StubForge
