import StubForge.Proofs.Storage.FileSystem
import StubForge.Proofs.Storage.Path
import StubForge.Storage.Output

/-! What the steps of an output do to the storage when they succeed, and how they fail. -/
namespace StubForge.FileSystem

/-! ## Temporary files -/

theorem length_le_foldl_max (names : List String) (n : Nat) :
    n ≤ names.foldl (fun n name => max n name.length) n ∧
      ∀ name ∈ names, name.length ≤ names.foldl (fun n name => max n name.length) n := by
  induction names generalizing n with
  | nil => simp
  | cons first names ih =>
    obtain ⟨hstart, hnames⟩ := ih (max n first.length)
    rw [List.foldl_cons, List.forall_mem_cons]
    exact ⟨by omega, by omega, hnames⟩

/-- No location has the fresh name in it. -/
theorem node?_freshName (fs : FileSystem) (here : Location) :
    fs.node? (here ++ [fs.freshName]) = none := by
  rw [node?, if_neg (List.append_ne_nil_of_right_ne_nil _ (List.cons_ne_nil _ _))]
  rw [List.lookup_eq_none_iff]
  rintro ⟨l, n⟩ hmem
  rw [bne_iff_ne]
  rintro rfl
  have hfresh : fs.freshName ∈ fs.nodes.flatMap (·.1) :=
    List.mem_flatMap.2 ⟨_, hmem, List.mem_append_right _ List.mem_cons_self⟩
  have hle := (length_le_foldl_max _ 0).2 _ hfresh
  have htmp : ".tmp".length = 4 := by decide
  rw [freshName, String.length_append, htmp, String.length_ofList, List.length_replicate] at hle
  omega

/-! ## Directories -/

theorem ensureDirectory_error {fs : FileSystem} {p : Path} {fault : Fault}
    (h : (fs.ensureDirectory p).2 = .error fault) : ∃ path detail, fault = .io path detail := by
  simp only [ensureDirectory] at h
  cases hm : (fs.makeDirectories p).2 with
  | error problem =>
    simp only [hm, Except.mapError, Except.error.injEq] at h
    exact ⟨_, _, h.symm⟩
  | ok u => simp [hm, Except.mapError] at h

/-- The directory for plain names below a directory that is there already. -/
theorem madeAlong_of_ensureDirectory {fs fs' : FileSystem} {root : Path} {base : Location}
    {names : List String} (hbase : fs.walk fs.home root.components = .ok base)
    (hplain : ∀ s ∈ names, Path.Plain s) (hne : names ≠ [])
    (h : fs.ensureDirectory (names.foldl Path.join root) = (fs', .ok ())) :
    MadeAlong fs base names fs' := by
  obtain ⟨above, last, hlast, hjoin⟩ := Path.foldl_join_of_ne_nil root hne
  have htext := above.text_join_ne_empty (hplain last hlast)
  have hdot := above.endsInDot_join (hplain last hlast)
  have hcomponents := root.components_foldl_join hplain
  rw [hjoin] at h hcomponents
  rw [ensureDirectory, makeDirectories, if_neg htext, hdot, hcomponents,
    makeAlong_append hbase] at h
  cases hm : fs.makeAlong base (names.map .name) with
  | mk fs₁ made =>
    cases hu : usable (above.join last) with
    | error problem => simp [hu, Except.mapError] at h
    | ok u =>
      cases made with
      | error problem => simp [hu, hm, Except.mapError, Except.map] at h
      | ok l =>
        simp only [hu, hm, Except.mapError, Except.map] at h
        cases h
        exact madeAlong hm

/-! ## Files -/

/-- The content `content` in the file `target`, which is at `l`, and nothing else changed. -/
structure Written (fs : FileSystem) (target : Path) (l : Location) (content : String)
    (fs' : FileSystem) : Prop where
  located : fs.locate target = .ok l
  noFiller : target.endsInFiller = false
  noDirectory : fs.node? l ≠ some .directory
  home : fs'.home = fs.home
  written : fs'.node? l = some (.file content)
  elsewhere : ∀ k, k ≠ l → fs'.node? k = fs.node? k

theorem Written.keeps {fs fs' : FileSystem} {target : Path} {l : Location} {content : String}
    (h : Written fs target l content fs') : fs.Keeps fs' := by
  refine ⟨h.home, fun k hk => ?_⟩
  have hne : k ≠ l := fun heq => h.noDirectory (heq ▸ hk)
  rw [h.elsewhere k hne, hk]

theorem read_eq_ok {fs : FileSystem} {p : Path} {content : String} :
    fs.read p = .ok content ↔ ∃ l, fs.locate p = .ok l ∧ fs.node? l = some (.file content) ∧
      p.endsInFiller = false := by
  rw [read, bind_eq_ok]
  refine exists_congr fun l => and_congr_right fun _ => ?_
  cases fs.node? l with
  | none => simp
  | some stored => cases stored <;> cases p.endsInFiller <;> simp

theorem Written.read {fs fs' : FileSystem} {target : Path} {l : Location} {content : String}
    (h : Written fs target l content fs') : fs'.read target = .ok content :=
  read_eq_ok.2 ⟨l, h.keeps.locate h.located, h.written, h.noFiller⟩

/-- A file that could be read still can, and has its content unless it is the one that was
written. -/
theorem Written.read_or {fs fs' : FileSystem} {target : Path} {l : Location} {content : String}
    (h : Written fs target l content fs') {p : Path} {before : String}
    (hp : fs.read p = .ok before) : fs'.read p = .ok before ∨ fs'.read p = .ok content := by
  obtain ⟨k, hk, hnode, hfiller⟩ := read_eq_ok.1 hp
  by_cases heq : k = l
  · exact .inr (read_eq_ok.2 ⟨k, h.keeps.locate hk, heq ▸ h.written, hfiller⟩)
  · exact .inl (read_eq_ok.2 ⟨k, h.keeps.locate hk, (h.elsewhere k heq).trans hnode, hfiller⟩)

theorem takePlace_eq_ok {fs fs' : FileSystem} {tmp : Location} {target : Path} {content : String} :
    fs.takePlace tmp target content = .ok fs' ↔ ∃ l, fs.locate target = .ok l ∧
      target.endsInFiller = false ∧ fs.node? l ≠ some .directory ∧
      fs.refuses .rename l = false ∧ fs' = (fs.remove tmp).put l (.file content) := by
  rw [takePlace]
  cases fs.locate target with
  | error problem => simp [Except.bind]
  | ok l =>
    simp only [Except.bind, Except.ok.injEq, exists_eq_left']
    split
    · simp [*]
    · split
      · simp [*]
      · split
        · simp [*]
        · simp [*, @eq_comm _ fs']

/-- A temporary file under a name that is not taken is not in the way of anything. -/
theorem written_of_takePlace {fs fs' : FileSystem} {tmp : Location} {target : Path}
    {draft content : String} (htmp : tmp ≠ []) (hfree : fs.node? tmp = none)
    (h : (fs.put tmp (.file draft)).takePlace tmp target content = .ok fs') :
    ∃ l, Written fs target l content fs' := by
  obtain ⟨l, hl, hfiller, hdirectory, -, rfl⟩ := takePlace_eq_ok.1 h
  have hne : l ≠ [] := fun heq => hdirectory (by rw [heq, node?, if_pos rfl])
  refine ⟨l, (fs.keeps_of_put_file htmp draft).locate hl, hfiller, ?_, rfl, ?_, ?_⟩
  · intro hd
    exact hdirectory ((keeps_put_file hfree draft).2 l hd)
  · exact node?_put_self _ hne _
  · intro k hk
    rw [node?_put_of_ne _ hk]
    by_cases heq : k = tmp
    · rw [heq, node?_remove_self _ htmp, hfree]
    · rw [node?_remove_of_ne _ heq, node?_put_of_ne _ heq]

/-- What is done to the temporary file before it takes the place of the target. -/
def draftSteps : List StorageStep :=
  [.createTemporary, .writeHeader, .writeBody, .flush, .setPermissions]

theorem writeFile_eq_ok {fs fs' : FileSystem} {target : Path} {header body : String} :
    fs.writeFile target header body = (fs', .ok ()) ↔ ∃ dir here, target.parent? = some dir ∧
      fs.temporaryPlace dir = .ok here ∧
      (∀ step ∈ draftSteps, fs.refuses step (here ++ [fs.freshName]) = false) ∧
      (fs.put (here ++ [fs.freshName]) (.file (header ++ body))).takePlace
        (here ++ [fs.freshName]) target (header ++ body) = .ok fs' := by
  have hrefuses (tmp : Location) (n : Stored) : (fs.put tmp n).refuses = fs.refuses := rfl
  simp only [draftSteps, List.forall_mem_cons]
  constructor
  · intro h
    unfold writeFile at h
    cases hparent : target.parent? with
    | none => simp [hparent] at h
    | some dir =>
      cases hplace : fs.temporaryPlace dir with
      | error problem => simp [hparent, hplace] at h
      | ok here =>
        simp only [hparent, hplace, put_put, hrefuses] at h
        iterate 5
          split at h
          · cases h
        rename_i hcreate hheader hbody hflush hpermissions
        rw [Bool.not_eq_true] at hcreate hheader hbody hflush hpermissions
        split at h
        · cases h
        · rename_i hplaced
          cases h
          exact ⟨dir, here, rfl, hplace, ⟨hcreate, hheader, hbody, hflush, hpermissions,
            List.forall_mem_nil _⟩, hplaced⟩
  · rintro ⟨dir, here, hparent, hplace, ⟨hcreate, hheader, hbody, hflush, hpermissions, -⟩, hplaced⟩
    simp only [writeFile, hparent, hplace, hrefuses, hcreate, hheader, hbody, hflush, hpermissions,
      put_put, hplaced, Bool.false_eq_true, if_false]

theorem written_of_writeFile {fs fs' : FileSystem} {target : Path} {header body : String}
    (h : fs.writeFile target header body = (fs', .ok ())) :
    ∃ l, Written fs target l (header ++ body) fs' := by
  obtain ⟨dir, here, -, -, -, hplaced⟩ := writeFile_eq_ok.1 h
  have htmp : here ++ [fs.freshName] ≠ [] :=
    List.append_ne_nil_of_right_ne_nil _ (List.cons_ne_nil _ _)
  exact written_of_takePlace htmp (fs.node?_freshName here) hplaced

theorem writeFile_error {fs : FileSystem} {target : Path} {header body : String} {fault : Fault}
    (h : (fs.writeFile target header body).2 = .error fault) :
    ∃ path detail, fault = .io path detail := by
  unfold writeFile at h
  cases hparent : target.parent? with
  | none =>
    simp only [hparent, Except.error.injEq] at h
    exact ⟨_, _, h.symm⟩
  | some dir =>
    cases hplace : fs.temporaryPlace dir with
    | error problem =>
      simp only [hparent, hplace, Except.error.injEq] at h
      exact ⟨_, _, h.symm⟩
    | ok here =>
      simp only [hparent, hplace] at h
      iterate 5
        split at h
        · exact ⟨_, _, (Except.error.inj h).symm⟩
      split at h
      · exact ⟨_, _, (Except.error.inj h).symm⟩
      · cases h

/-- A file with a plain name is below its directory. -/
theorem exists_of_locate_join {fs : FileSystem} {dir : Path} {l : Location} {name : String}
    (hname : Path.Plain name) (h : fs.locate (dir.join name) = .ok l) :
    ∃ here, fs.walk fs.home dir.components = .ok here ∧ l = here ++ [name] := by
  rw [locate, dir.components_join hname, List.getLast?_concat, List.dropLast_concat] at h
  obtain ⟨u, -, h⟩ := bind_eq_ok.1 h
  obtain ⟨here, hhere, h⟩ := bind_eq_ok.1 h
  split at h
  · cases h
  · exact ⟨here, hhere, (Except.ok.inj h).symm⟩

theorem eq_of_locate_join {fs : FileSystem} {dir : Path} {here l : Location} {name : String}
    (hdir : fs.walk fs.home dir.components = .ok here) (hname : Path.Plain name)
    (h : fs.locate (dir.join name) = .ok l) : l = here ++ [name] := by
  obtain ⟨here', hhere, hl⟩ := exists_of_locate_join hname h
  rw [hdir] at hhere
  cases hhere
  exact hl

/-- If a file cannot be written, everything is as it was. -/
theorem unchanged_of_writeFile_error {fs fs' : FileSystem} {target : Path} {header body : String}
    {fault : Fault} (h : fs.writeFile target header body = (fs', .error fault)) :
    fs'.home = fs.home ∧ ∀ l, fs'.node? l = fs.node? l := by
  have htemporary (here : Location) (n : Stored) (l : Location) :
      ((fs.put (here ++ [fs.freshName]) n).remove (here ++ [fs.freshName])).node? l =
        fs.node? l := by
    by_cases heq : l = here ++ [fs.freshName]
    · rw [heq, node?_freshName,
        node?_remove_self _ (List.append_ne_nil_of_right_ne_nil _ (List.cons_ne_nil _ _))]
    · rw [node?_remove_of_ne _ heq, node?_put_of_ne _ heq]
  unfold writeFile at h
  cases hparent : target.parent? with
  | none =>
    simp only [hparent] at h
    cases h
    exact ⟨rfl, fun _ => rfl⟩
  | some dir =>
    cases hplace : fs.temporaryPlace dir with
    | error problem =>
      simp only [hparent, hplace] at h
      cases h
      exact ⟨rfl, fun _ => rfl⟩
    | ok here =>
      simp only [hparent, hplace, put_put] at h
      split at h
      · cases h
        exact ⟨rfl, fun _ => rfl⟩
      iterate 4
        split at h
        · cases h
          exact ⟨rfl, htemporary here _⟩
      split at h
      · cases h
        exact ⟨rfl, htemporary here _⟩
      · cases h

/-! ## Contents -/

/-- Every file is as it was before, or has one of the new contents. -/
def OnlyNew (contents : List String) (fs fs' : FileSystem) : Prop :=
  ∀ l content, fs'.node? l = some (.file content) →
    fs.node? l = some (.file content) ∨ content ∈ contents

theorem OnlyNew.mono {first second : List String} {fs fs' : FileSystem}
    (h : OnlyNew first fs fs') (hsub : first ⊆ second) : OnlyNew second fs fs' := by
  intro l content hl
  exact (h l content hl).imp_right fun hmem => hsub hmem

theorem OnlyNew.trans {contents : List String} {fs fs₁ fs₂ : FileSystem}
    (h₁ : OnlyNew contents fs fs₁) (h₂ : OnlyNew contents fs₁ fs₂) : OnlyNew contents fs fs₂ := by
  intro l content h
  rcases h₂ l content h with h | hnew
  · exact h₁ l content h
  · exact .inr hnew

theorem OnlyNew.of_node?_eq {fs fs' : FileSystem} (h : ∀ l, fs'.node? l = fs.node? l)
    (contents : List String) : OnlyNew contents fs fs' := by
  intro l content hl
  exact .inl (h l ▸ hl)

theorem makeAlong_onlyNew (fs : FileSystem) (here : Location) (steps : List Path.Component) :
    OnlyNew [] fs (fs.makeAlong here steps).1 := by
  induction steps generalizing fs here with
  | nil => exact .of_node?_eq (fun _ => rfl) []
  | cons step steps ih =>
    cases step with
    | name name =>
      rw [makeAlong]
      split
      · exact .of_node?_eq (fun _ => rfl) []
      · split
        · exact ih fs _
        · exact .of_node?_eq (fun _ => rfl) []
        · split
          · exact .of_node?_eq (fun _ => rfl) []
          · have hmade : OnlyNew [] fs (fs.put (here ++ [name]) .directory) := by
              intro l content h
              by_cases heq : l = here ++ [name]
              · rw [heq, node?_put_concat] at h
                cases h
              · rw [node?_put_of_ne _ heq] at h
                exact .inl h
            exact hmade.trans (ih _ _)
    | _ => exact ih fs _

theorem ensureDirectory_onlyNew (fs : FileSystem) (p : Path) :
    OnlyNew [] fs (fs.ensureDirectory p).1 := by
  have hsame : OnlyNew [] fs fs := .of_node?_eq (fun _ => rfl) []
  simp only [ensureDirectory, makeDirectories]
  split
  · exact hsame
  · split
    · exact hsame
    · split <;> exact fs.makeAlong_onlyNew _ _

theorem writeFile_onlyNew (fs : FileSystem) (target : Path) (header body : String) :
    OnlyNew [header ++ body] fs (fs.writeFile target header body).1 := by
  cases hw : fs.writeFile target header body with
  | mk fs' outcome =>
    cases outcome with
    | error fault => exact .of_node?_eq (unchanged_of_writeFile_error hw).2 _
    | ok u =>
      obtain ⟨place, hwritten⟩ := written_of_writeFile hw
      intro l content h
      by_cases heq : l = place
      · rw [heq, hwritten.written] at h
        cases h
        exact .inr List.mem_cons_self
      · rw [hwritten.elsewhere l heq] at h
        exact .inl h

/-! ## Outside of a root -/

/-- Outside of the directory to which `root` leads, each location is as it was before, or as making
that directory leaves it. -/
structure Confined (root : Path) (fs fs' : FileSystem) : Prop where
  home : fs'.home = fs.home
  outside : ∀ l, Outside (follow fs.home root.components) l → fs'.node? l = fs.node? l ∨
    fs'.node? l = (fs.makeAlong fs.home root.components).1.node? l

theorem Confined.refl (root : Path) (fs : FileSystem) : Confined root fs fs :=
  ⟨rfl, fun _ _ => .inl rfl⟩

theorem Confined.of_makeAlong {root : Path} {fs : FileSystem} {steps : List Path.Component}
    (h : ∀ l, Outside (follow fs.home root.components) l →
      (fs.makeAlong fs.home steps).1.node? l = fs.node? l ∨
      (fs.makeAlong fs.home steps).1.node? l =
        (fs.makeAlong fs.home root.components).1.node? l) :
    Confined root fs (fs.makeAlong fs.home steps).1 :=
  ⟨(fs.makeAlong_keeps fs.home steps).1, h⟩

/-- Directories for names below the root. -/
theorem ensureDirectory_confined (fs : FileSystem) {root p : Path} {names : List String}
    (hp : p.components = root.components ++ names.map .name) :
    Confined root fs (fs.ensureDirectory p).1 := by
  simp only [ensureDirectory, makeDirectories]
  split
  · exact .refl root fs
  · split
    · exact .refl root fs
    · split
      · -- The last step is not made, be it one of the names or of the root.
        refine .of_makeAlong fun l hl => ?_
        rcases names.eq_nil_or_concat with rfl | ⟨front, last, rfl⟩
        · obtain ⟨rest, hrest⟩ := p.components.dropLast_prefix
          rw [List.map_nil, List.append_nil] at hp
          have hfirst := fs.node?_makeAlong_or fs.home p.components.dropLast rest l
          rw [hrest] at hfirst
          rwa [← hp]
        · rw [hp, List.concat_eq_append, List.map_append, ← List.append_assoc, List.map_singleton,
            List.dropLast_concat]
          exact .inr (node?_makeAlong_append hl front)
      · refine .of_makeAlong fun l hl => ?_
        rw [hp]
        exact .inr (node?_makeAlong_append hl names)

/-- A file below the root, whether or not it can be written. -/
theorem Confined.writeFile {root target : Path} {fs fs' : FileSystem} (h : Confined root fs fs')
    (hbelow : root.Below target) (header body : String) :
    Confined root fs (fs'.writeFile target header body).1 := by
  obtain ⟨names, hne, hcomponents⟩ := hbelow
  cases hw : fs'.writeFile target header body with
  | mk fs₁ outcome =>
    cases outcome with
    | error fault =>
      obtain ⟨hhome, hnodes⟩ := unchanged_of_writeFile_error hw
      refine ⟨hhome.trans h.home, fun l hl => ?_⟩
      rw [hnodes l]
      exact h.outside l hl
    | ok u =>
      obtain ⟨place, hwritten⟩ := written_of_writeFile hw
      have hplace := follow_of_locate hwritten.located
      rw [hcomponents, follow_append, follow_names, h.home] at hplace
      refine ⟨hwritten.home.trans h.home, fun l hl => ?_⟩
      rw [hwritten.elsewhere l (hplace ▸ hl names hne)]
      exact h.outside l hl

end StubForge.FileSystem
