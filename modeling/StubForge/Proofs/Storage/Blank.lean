import StubForge.Proofs.Storage.FileSystem
import StubForge.Storage.Output

/-! The storage is blind: which step fails, and what is where afterwards, does not depend on what is
in the files. Emptying all of them first gives the same outcome and the same tree. -/
namespace StubForge

/-- A file without its content. -/
def Stored.blank : Stored → Stored
  | directory => directory
  | file _ => file ""

namespace FileSystem

/-- The same tree with nothing in the files. -/
def blank (fs : FileSystem) : FileSystem :=
  { fs with nodes := fs.nodes.map fun (l, n) => (l, n.blank) }

section
variable (fs : FileSystem)

@[simp] theorem home_blank : fs.blank.home = fs.home := rfl

@[simp] theorem refuses_blank : fs.blank.refuses = fs.refuses := rfl

theorem lookup_blank (nodes : List (Location × Stored)) (l : Location) :
    (nodes.map fun (k, n) => (k, n.blank)).lookup l = (nodes.lookup l).map Stored.blank := by
  induction nodes with
  | nil => rfl
  | cons node nodes ih =>
    obtain ⟨k, n⟩ := node
    rw [List.map_cons, List.lookup_cons, List.lookup_cons, ih]
    cases l == k <;> rfl

@[simp] theorem node?_blank (l : Location) :
    fs.blank.node? l = (fs.node? l).map Stored.blank := by
  rw [node?, node?]
  split
  · rfl
  · exact lookup_blank fs.nodes l

theorem without_blank (l : Location) (nodes : List (Location × Stored)) :
    without l (nodes.map fun (k, n) => (k, n.blank)) =
      (without l nodes).map fun (k, n) => (k, n.blank) := by
  rw [without, without, List.filter_map]
  rfl

@[simp] theorem put_blank (l : Location) (n : Stored) :
    (fs.put l n).blank = fs.blank.put l n.blank := by
  simp only [put, blank, without_blank, List.map_cons]

@[simp] theorem remove_blank (l : Location) : (fs.remove l).blank = fs.blank.remove l := by
  simp only [remove, blank, without_blank]

theorem walk_blank (here : Location) (steps : List Path.Component) :
    fs.blank.walk here steps = fs.walk here steps := by
  induction steps generalizing here with
  | nil => rfl
  | cons step steps ih =>
    cases step with
    | name name =>
      rw [walk, walk, node?_blank]
      split
      · rfl
      · cases fs.node? (here ++ [name]) with
        | none => rfl
        | some n =>
          cases n with
          | directory => exact ih _
          | file content => rfl
    | _ => exact ih _

@[simp] theorem locate_blank (p : Path) : fs.blank.locate p = fs.locate p := by
  simp only [locate, walk_blank, home_blank]

@[simp] theorem directoryAt_blank (p : Path) : fs.blank.directoryAt p = fs.directoryAt p := by
  simp only [directoryAt, walk_blank, home_blank]

@[simp] theorem freshName_blank : fs.blank.freshName = fs.freshName := by
  simp only [freshName, blank, List.flatMap_map]

@[simp] theorem temporaryPlace_blank (dir : Path) :
    fs.blank.temporaryPlace dir = fs.temporaryPlace dir := by
  rw [temporaryPlace, directoryAt_blank]
  rfl

theorem makeAlong_blank (here : Location) (steps : List Path.Component) :
    fs.blank.makeAlong here steps = (fs.makeAlong here steps).map blank id := by
  induction steps generalizing fs here with
  | nil => rfl
  | cons step steps ih =>
    cases step with
    | name name =>
      rw [makeAlong, makeAlong, node?_blank]
      split
      · rfl
      · cases fs.node? (here ++ [name]) with
        | none =>
          have hnext := ih (fs.put (here ++ [name]) .directory) (here ++ [name])
          rw [put_blank] at hnext
          simp only [Option.map_none, apply_ite (Prod.map blank id)]
          exact if_congr Iff.rfl rfl hnext
        | some n =>
          cases n with
          | directory => exact ih fs _
          | file content => rfl
    | _ => exact ih fs _

theorem makeDirectories_blank (p : Path) :
    fs.blank.makeDirectories p = (fs.makeDirectories p).map blank id := by
  unfold makeDirectories
  split
  · rfl
  · cases usable p with
    | error problem => rfl
    | ok u =>
      simp only [home_blank, makeAlong_blank, Prod.map_fst, directoryAt_blank]
      split <;> rfl

theorem ensureDirectory_blank (p : Path) :
    fs.blank.ensureDirectory p = (fs.ensureDirectory p).map blank id := by
  simp only [ensureDirectory, makeDirectories_blank, Prod.map_fst, Prod.map_snd, id_eq,
    Prod.map_apply]

theorem takePlace_blank (tmp : Location) (target : Path) (content : String) :
    fs.blank.takePlace tmp target "" = (fs.takePlace tmp target content).map blank := by
  rw [takePlace, takePlace, locate_blank]
  cases fs.locate target with
  | error problem => rfl
  | ok l =>
    have hdirectory : fs.blank.node? l = some .directory ↔ fs.node? l = some .directory := by
      rw [node?_blank]
      cases fs.node? l with
      | none => simp
      | some n => cases n <;> simp [Stored.blank]
    have hdone : (fs.blank.remove tmp).put l (.file "") =
        ((fs.remove tmp).put l (.file content)).blank := by rw [put_blank, remove_blank]; rfl
    simp only [Except.bind, apply_ite (Except.map blank)]
    exact if_congr Iff.rfl rfl (if_congr hdirectory rfl (if_congr Iff.rfl rfl
      (congrArg Except.ok hdone)))

/-- The steps in which a file is written, and the first that fails, are the same for every text. -/
theorem writeFile_blank (target : Path) (header body : String) :
    fs.blank.writeFile target "" "" = (fs.writeFile target header body).map blank id := by
  unfold writeFile
  cases target.parent? with
  | none => rfl
  | some dir =>
    simp only [temporaryPlace_blank]
    cases fs.temporaryPlace dir with
    | error problem => rfl
    | ok here =>
      have hput (content : String) : fs.blank.put (here ++ [fs.freshName]) (.file "") =
          (fs.put (here ++ [fs.freshName]) (.file content)).blank :=
        (fs.put_blank _ (.file content)).symm
      have hfailed (content : String) (fault : Fault) :
          ((fs.blank.put (here ++ [fs.freshName]) (.file "")).remove (here ++ [fs.freshName]),
            Except.error fault) = Prod.map blank id
              ((fs.put (here ++ [fs.freshName]) (.file content)).remove (here ++ [fs.freshName]),
                (.error fault : Except Fault Unit)) := by
        rw [hput content, ← remove_blank]
        rfl
      simp only [freshName_blank, put_put, String.append_empty, apply_ite (Prod.map blank id)]
      -- Each step is asked for at a place that has nothing to do with the text.
      refine if_congr Iff.rfl rfl (if_congr Iff.rfl (hfailed _ _) (if_congr Iff.rfl (hfailed _ _)
        (if_congr Iff.rfl (hfailed _ _) (if_congr Iff.rfl (hfailed _ _) ?_))))
      rw [hput (header ++ body), takePlace_blank _ _ _ (header ++ body), ← hput (header ++ body)]
      cases (fs.put (here ++ [fs.freshName]) (.file (header ++ body))).takePlace
          (here ++ [fs.freshName]) target (header ++ body) with
      | error problem => exact hfailed _ _
      | ok fs' => rfl

end

end FileSystem
end StubForge
