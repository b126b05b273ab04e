import StubForge.Generation.Run
import StubForge.Proofs.Generation.Rendering
import StubForge.Proofs.Storage.Output

/-! The tree below an output directory, described by the log of what was emitted into it: each step
of a run keeps the description true. -/
namespace StubForge
open FileSystem

/-! ## What is emitted -/

/-- The file of a construct that has a text, by its place below the root. -/
def Setting.emission? (s : Setting) (k : Construct) : Option (Location × String) := do
  let header ← s.naming.dialect.templates.header.toOption
  let body ← (k.render s).toOption
  some (s.package.segments ++ [k.stem ++ s.naming.dialect.fileExtension], header ++ body)

/-- The files of constructs up to the first that has no text. -/
def Setting.emissions (s : Setting) (ks : List Construct) : List (Location × String) :=
  (ks.takeWhile fun k => (k.render s).isOk).filterMap s.emission?

/-- What a run emits; a dry run emits nothing. -/
def Config.emissions (c : Config) (doc : Document) : List (Location × String) :=
  if c.dryRun then []
  else (Setting.ofDocument c.dialect c.options (doc.recase c.dialect)).emissions
    (doc.recase c.dialect).definitions.constructs

/-- The directories that a run makes, each with those above it. -/
def Config.directories (c : Config) (doc : Document) : List Location :=
  if c.dryRun then [] else [((doc.recase c.dialect).packageFor c.dialect).segments]

/-- The content that was the last to be emitted to a place. -/
def lastEmitted (log : List (Location × String)) (place : Location) : Option String :=
  log.reverse.lookup place

theorem lastEmitted_append (log log' : List (Location × String)) (place : Location) :
    lastEmitted (log ++ log') place = (lastEmitted log' place).or (lastEmitted log place) := by
  rw [lastEmitted, List.reverse_append, List.lookup_append, lastEmitted, lastEmitted]

theorem lastEmitted_concat (log : List (Location × String)) (place other : Location)
    (content : String) :
    lastEmitted (log ++ [(place, content)]) other =
      if other = place then some content else lastEmitted log other := by
  rw [lastEmitted_append]
  by_cases h : other = place
  · rw [if_pos h, h, lastEmitted, List.reverse_singleton, List.lookup_cons_self, Option.some_or]
  · rw [if_neg h, lastEmitted, List.reverse_singleton, List.lookup_cons, beq_eq_false_iff_ne.2 h]
    rfl

theorem mem_of_lastEmitted {log : List (Location × String)} {place : Location} {content : String}
    (h : lastEmitted log place = some content) : (place, content) ∈ log := by
  obtain ⟨before, after, hsplit, -⟩ := List.lookup_eq_some_iff.1 h
  rw [← List.mem_reverse, hsplit]
  exact List.mem_append_right _ List.mem_cons_self

theorem lastEmitted_eq_none {log : List (Location × String)} {place : Location}
    (h : place ∉ log.map (·.1)) : lastEmitted log place = none := by
  rw [Option.eq_none_iff_forall_ne_some]
  exact fun content hlast => h (List.mem_map.2 ⟨_, mem_of_lastEmitted hlast, rfl⟩)

theorem Setting.emissions_cons_error {s : Setting} {k : Construct} {fault : Fault}
    (h : k.render s = .error fault) (ks : List Construct) : s.emissions (k :: ks) = [] := by
  rw [emissions, List.takeWhile_cons, h]
  rfl

theorem Setting.emission?_of_render {s : Setting} {k : Construct} {header body : String}
    (hheader : s.naming.dialect.templates.header = .ok header) (h : k.render s = .ok body) :
    s.emission? k = some (s.package.segments ++ [k.stem ++ s.naming.dialect.fileExtension],
      header ++ body) := by
  rw [emission?, hheader, h]
  rfl

theorem Setting.emissions_cons_ok {s : Setting} {k : Construct} {header body : String}
    (hheader : s.naming.dialect.templates.header = .ok header) (h : k.render s = .ok body)
    (ks : List Construct) :
    s.emissions (k :: ks) =
      (s.package.segments ++ [k.stem ++ s.naming.dialect.fileExtension], header ++ body) ::
        s.emissions ks := by
  rw [emissions, List.takeWhile_cons, h]
  exact List.filterMap_cons_some (emission?_of_render hheader h)

/-! ## The tree -/

/-- The tree below `base`, to which `root` leads: the files are what was emitted last to each
place, the directories are those that were made, and paths of emitted files lead to these. All
other nodes are as in `start`. -/
structure Tree (start : FileSystem) (root : Path) (base : Location)
    (log : List (Location × String)) (made : List Location) (fs : FileSystem) : Prop where
  reached : fs.walk fs.home root.components = .ok base
  outside : ∀ l, (∀ place ≠ [], l ≠ base ++ place) → fs.node? l = start.node? l
  file : ∀ place ≠ [], ∀ content, fs.node? (base ++ place) = some (.file content) ↔
    lastEmitted log place = some content
  directory : ∀ place ≠ [], fs.node? (base ++ place) = some .directory ↔
    ∃ names ∈ made, place <+: names
  located : ∀ e ∈ log, fs.locate (e.1.foldl Path.join root) = .ok (base ++ e.1) ∧
    (e.1.foldl Path.join root).endsInFiller = false

namespace Tree

variable {start fs fs' : FileSystem} {root : Path} {base : Location}
  {log : List (Location × String)} {made : List Location}

theorem empty (hreached : start.walk start.home root.components = .ok base)
    (hempty : ∀ place ≠ [], start.node? (base ++ place) = none) :
    Tree start root base [] [] start := by
  constructor
  · exact hreached
  · exact fun _ _ => rfl
  · intro place hne content
    simp [hempty place hne, lastEmitted]
  · intro place hne
    simp [hempty place hne]
  · nofun

theorem node?_some {log' : List (Location × String)} {made' : List Location}
    (h : Tree start root base log made fs) (h' : Tree start root base log' made' fs')
    (hlog : ∀ place, lastEmitted log place = lastEmitted log' place)
    (hmade : ∀ names, names ∈ made ↔ names ∈ made') {place : Location} (hne : place ≠ [])
    {n : Stored} (hn : fs.node? (base ++ place) = some n) :
    fs'.node? (base ++ place) = some n := by
  cases n with
  | file content =>
    have hlast := (h.file place hne content).1 hn
    exact (h'.file place hne content).2 ((hlog place).symm.trans hlast)
  | directory =>
    obtain ⟨names, hnames, hplace⟩ := (h.directory place hne).1 hn
    exact (h'.directory place hne).2 ⟨names, (hmade names).1 hnames, hplace⟩

/-- The log and the directories determine the tree. -/
theorem node?_eq {log' : List (Location × String)} {made' : List Location}
    (h : Tree start root base log made fs) (h' : Tree start root base log' made' fs')
    (hlog : ∀ place, lastEmitted log place = lastEmitted log' place)
    (hmade : ∀ names, names ∈ made ↔ names ∈ made') (l : Location) : fs.node? l = fs'.node? l := by
  by_cases hl : ∃ place ≠ [], l = base ++ place
  · obtain ⟨place, hne, rfl⟩ := hl
    refine Option.ext fun n => ⟨fun hn => ?_, fun hn => ?_⟩
    · exact h.node?_some h' hlog hmade hne hn
    · exact h'.node?_some h (fun p => (hlog p).symm) (fun names => (hmade names).symm) hne hn
  · have hout : ∀ place ≠ [], l ≠ base ++ place := fun place hne heq => hl ⟨place, hne, heq⟩
    rw [h.outside l hout, h'.outside l hout]

theorem located_of_keeps (h : Tree start root base log made fs) (hk : fs.Keeps fs') :
    ∀ e ∈ log, fs'.locate (e.1.foldl Path.join root) = .ok (base ++ e.1) ∧
      (e.1.foldl Path.join root).endsInFiller = false :=
  fun e he => ⟨hk.locate (h.located e he).1, (h.located e he).2⟩

theorem reached_of_keeps (h : Tree start root base log made fs) (hk : fs.Keeps fs') :
    fs'.walk fs'.home root.components = .ok base := by
  rw [hk.1]
  exact hk.walk h.reached

/-- Directories for names below the root, where nothing was in the way. -/
theorem makeDirectories (h : Tree start root base log made fs) {names : List String}
    (hm : MadeAlong fs base names fs') : Tree start root base log (made ++ [names]) fs' := by
  constructor
  · exact h.reached_of_keeps hm.keeps
  · intro l hl
    have hway : ¬ OnTheWay base names l := fun ⟨way, hne, _, heq⟩ => hl way hne heq
    rw [hm.elsewhere l hway, h.outside l hl]
  · intro place hne content
    rw [← h.file place hne content]
    by_cases hway : OnTheWay base names (base ++ place)
    · rw [hm.made _ hway]
      rcases hm.noFile _ hway with hnone | hdirectory
      · simp [hnone]
      · simp [hdirectory]
    · rw [hm.elsewhere _ hway]
  · intro place hne
    have hsplit : (∃ ns ∈ made ++ [names], place <+: ns) ↔
        (∃ ns ∈ made, place <+: ns) ∨ place <+: names := by
      simp [or_and_right, exists_or]
    rw [hsplit, ← h.directory place hne, ← onTheWay_append_iff base hne]
    by_cases hway : OnTheWay base names (base ++ place)
    · simp [hm.made _ hway, hway]
    · simp [hm.elsewhere _ hway, hway]
  · exact h.located_of_keeps hm.keeps

theorem write (h : Tree start root base log made fs) {place : Location} {content : String}
    (hne : place ≠ [])
    (hw : Written fs (place.foldl Path.join root) (base ++ place) content fs') :
    Tree start root base (log ++ [(place, content)]) made fs' := by
  have helse {other : Location} (ho : other ≠ place) :
      fs'.node? (base ++ other) = fs.node? (base ++ other) :=
    hw.elsewhere _ fun heq => ho (List.append_cancel_left heq)
  constructor
  · exact h.reached_of_keeps hw.keeps
  · intro l hl
    rw [hw.elsewhere l (hl place hne), h.outside l hl]
  · intro other hother text
    rw [lastEmitted_concat]
    by_cases ho : other = place
    · rw [if_pos ho, ho, hw.written, Option.some.injEq, Option.some.injEq, Stored.file.injEq]
    · rw [if_neg ho, helse ho, h.file other hother text]
  · intro other hother
    by_cases ho : other = place
    · have hno := hw.noDirectory
      rw [← h.directory other hother, ho, hw.written]
      simp [hno]
    · rw [helse ho, h.directory other hother]
  · intro e he
    rcases List.mem_append.1 he with he | he
    · exact h.located_of_keeps hw.keeps e he
    · rw [List.mem_singleton.1 he]
      exact ⟨hw.keeps.locate hw.located, hw.noFiller⟩

/-- An emitted file is what its path leads to. -/
theorem read (h : Tree start root base log made fs) {place : Location} (hne : place ≠ [])
    {content : String} (hlast : lastEmitted log place = some content) :
    fs.read (place.foldl Path.join root) = .ok content := by
  obtain ⟨hlocate, hfiller⟩ := h.located _ (mem_of_lastEmitted hlast)
  exact read_eq_ok.2 ⟨_, hlocate, (h.file place hne content).2 hlast, hfiller⟩

end Tree
end StubForge
