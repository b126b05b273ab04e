import StubForge.Proofs.Outcome
import StubForge.Storage.FileSystem

/-! What changes to a storage do to the nodes in it, and which ways through it they leave open. -/
namespace StubForge.FileSystem

theorem lookup_without (l k : Location) (nodes : List (Location × Stored)) :
    (without l nodes).lookup k = if k = l then none else nodes.lookup k := by
  induction nodes with
  | nil => simp [without]
  | cons node nodes ih =>
    obtain ⟨j, n⟩ := node
    rw [without] at ih
    by_cases hj : j = l
    · subst hj
      by_cases hk : k = j
      · simpa [without, hk] using ih
      · simpa [without, hk, List.lookup_cons, beq_eq_false_iff_ne.2 hk] using ih
    · by_cases hk : k = j
      · subst hk
        simp [without, hj]
      · simpa [without, hj, List.lookup_cons, beq_eq_false_iff_ne.2 hk] using ih

theorem node?_put_self (fs : FileSystem) {l : Location} (hl : l ≠ []) (n : Stored) :
    (fs.put l n).node? l = some n := by
  rw [node?, if_neg hl, put, List.lookup_cons_self]

theorem node?_put_concat (fs : FileSystem) (here : Location) (name : String) (n : Stored) :
    (fs.put (here ++ [name]) n).node? (here ++ [name]) = some n :=
  fs.node?_put_self (List.append_ne_nil_of_right_ne_nil _ (List.cons_ne_nil _ _)) n

theorem node?_put_of_ne (fs : FileSystem) {l k : Location} (h : k ≠ l) (n : Stored) :
    (fs.put l n).node? k = fs.node? k := by
  rw [node?, node?, put, List.lookup_cons, lookup_without, beq_eq_false_iff_ne.2 h, if_neg h]

theorem node?_remove_self (fs : FileSystem) {l : Location} (hl : l ≠ []) :
    (fs.remove l).node? l = none := by
  rw [node?, if_neg hl, remove, lookup_without, if_pos rfl]

theorem node?_remove_of_ne (fs : FileSystem) {l k : Location} (h : k ≠ l) :
    (fs.remove l).node? k = fs.node? k := by
  rw [node?, node?, remove, lookup_without, if_neg h]

theorem without_without (l : Location) (nodes : List (Location × Stored)) :
    without l (without l nodes) = without l nodes := by simp [without]

theorem put_put (fs : FileSystem) (l : Location) (n m : Stored) :
    (fs.put l n).put l m = fs.put l m := by
  have hwithout : without l ((l, n) :: without l fs.nodes) = without l fs.nodes := by
    rw [← without_without l fs.nodes]
    simp [without]
  simp only [put, hwithout]

/-! ## Ways through the directories -/

/-- Whatever is a directory stays one. -/
def Keeps (fs fs' : FileSystem) : Prop :=
  fs'.home = fs.home ∧ ∀ l, fs.node? l = some .directory → fs'.node? l = some .directory

theorem Keeps.walk {fs fs' : FileSystem} (h : fs.Keeps fs') {here l : Location}
    {steps : List Path.Component} (hw : fs.walk here steps = .ok l) :
    fs'.walk here steps = .ok l := by
  induction steps generalizing here with
  | nil => exact hw
  | cons step steps ih =>
    cases step with
    | name name =>
      rw [FileSystem.walk] at hw ⊢
      split at hw
      · cases hw
      · rename_i hlength
        rw [if_neg hlength]
        cases hnode : fs.node? (here ++ [name]) with
        | none => simp [hnode] at hw
        | some node =>
          cases node with
          | file content => simp [hnode] at hw
          | directory =>
            rw [hnode] at hw
            rw [h.2 _ hnode]
            exact ih hw
    | _ => exact ih hw

theorem Keeps.locate {fs fs' : FileSystem} (h : fs.Keeps fs') {p : Path} {l : Location}
    (hl : fs.locate p = .ok l) : fs'.locate p = .ok l := by
  simp only [FileSystem.locate, bind_eq_ok] at hl ⊢
  obtain ⟨u, hu, hl⟩ := hl
  refine ⟨u, hu, ?_⟩
  rw [h.1]
  split at hl
  · obtain ⟨here, hhere, hl⟩ := bind_eq_ok.1 hl
    exact bind_eq_ok.2 ⟨here, h.walk hhere, hl⟩
  · exact h.walk hl

/-- A file in a free place stands in the way of no directory. -/
theorem keeps_put_file {fs : FileSystem} {tmp : Location} (hfree : fs.node? tmp = none)
    (content : String) : fs.Keeps (fs.put tmp (.file content)) := by
  refine ⟨rfl, fun k hk => ?_⟩
  have hne : k ≠ tmp := by
    rintro rfl
    rw [hfree] at hk
    cases hk
  rw [node?_put_of_ne _ hne, hk]

theorem keeps_of_put_file (fs : FileSystem) {tmp : Location} (htmp : tmp ≠ []) (content : String) :
    (fs.put tmp (.file content)).Keeps fs := by
  refine ⟨rfl, fun k hk => ?_⟩
  by_cases heq : k = tmp
  · rw [heq, node?_put_self _ htmp] at hk
    cases hk
  · rwa [node?_put_of_ne _ heq] at hk

theorem walk_append (fs : FileSystem) (here : Location) (first second : List Path.Component) :
    fs.walk here (first ++ second) = (fs.walk here first).bind (fs.walk · second) := by
  induction first generalizing here with
  | nil => rfl
  | cons step first ih =>
    cases step with
    | name name =>
      rw [List.cons_append, FileSystem.walk, FileSystem.walk]
      split
      · rfl
      · cases fs.node? (here ++ [name]) with
        | none => rfl
        | some node =>
          cases node with
          | file content => rfl
          | directory => exact ih _
    | _ => exact ih _

/-- Where there is a way already nothing is made. -/
theorem makeAlong_append {fs : FileSystem} {here l : Location} {first : List Path.Component}
    (h : fs.walk here first = .ok l) (second : List Path.Component) :
    fs.makeAlong here (first ++ second) = fs.makeAlong l second := by
  induction first generalizing here with
  | nil =>
    cases h
    rfl
  | cons step first ih =>
    cases step with
    | name name =>
      rw [FileSystem.walk] at h
      rw [List.cons_append, makeAlong]
      split at h
      · cases h
      · rename_i hlength
        rw [if_neg hlength]
        cases hnode : fs.node? (here ++ [name]) with
        | none => simp [hnode] at h
        | some node =>
          cases node with
          | file content => simp [hnode] at h
          | directory =>
            rw [hnode] at h
            exact ih h
    | _ => exact ih h

/-- The places below `here` on the way down the names. -/
def OnTheWay (here : Location) (names : List String) (l : Location) : Prop :=
  ∃ way, way ≠ [] ∧ way <+: names ∧ l = here ++ way

theorem onTheWay_cons {here l : Location} {name : String} {names : List String} :
    OnTheWay here (name :: names) l ↔
      l = here ++ [name] ∨ OnTheWay (here ++ [name]) names l := by
  constructor
  · rintro ⟨way, hne, hway, rfl⟩
    cases way with
    | nil => exact absurd rfl hne
    | cons first way =>
      obtain ⟨rfl, htail⟩ := List.cons_prefix_cons.1 hway
      cases way with
      | nil => exact .inl rfl
      | cons second way => exact .inr ⟨_, List.cons_ne_nil _ _, htail, List.append_cons ..⟩
  · rintro (rfl | ⟨way, -, hway, rfl⟩)
    · exact ⟨[name], List.cons_ne_nil _ _, List.cons_prefix_cons.2 ⟨rfl, List.nil_prefix⟩, rfl⟩
    · exact ⟨name :: way, List.cons_ne_nil _ _, List.cons_prefix_cons.2 ⟨rfl, hway⟩,
        (List.append_cons ..).symm⟩

theorem onTheWay_append_iff (here : Location) {names place : List String} (hne : place ≠ []) :
    OnTheWay here names (here ++ place) ↔ place <+: names := by
  constructor
  · rintro ⟨way, -, hway, heq⟩
    rwa [List.append_cancel_left heq]
  · exact fun hway => ⟨place, hne, hway, rfl⟩

theorem not_onTheWay_self (here : Location) (names : List String) : ¬ OnTheWay here names here := by
  rintro ⟨way, hne, -, hhere⟩
  exact hne (List.append_right_eq_self.1 hhere.symm)

/-- What making directories along names changes: those that are missing on the way are made, where
there are no files, and a way leads to the last. -/
structure MadeAlong (fs : FileSystem) (here : Location) (names : List String)
    (fs' : FileSystem) : Prop where
  home : fs'.home = fs.home
  elsewhere : ∀ k, ¬ OnTheWay here names k → fs'.node? k = fs.node? k
  made : ∀ k, OnTheWay here names k → fs'.node? k = some .directory
  noFile : ∀ k, OnTheWay here names k → fs.node? k = none ∨ fs.node? k = some .directory
  way : fs'.walk here (names.map .name) = .ok (here ++ names)

/-- One more name at the top, whose directory is `fs.node? (here ++ [name])` or has been made. -/
theorem MadeAlong.cons {fs fs₁ fs' : FileSystem} {here : Location} {name : String}
    {names : List String} (h : MadeAlong fs₁ (here ++ [name]) names fs')
    (hlength : ¬ maxNameBytes < name.utf8ByteSize) (hhome : fs₁.home = fs.home)
    (hmade : fs₁.node? (here ++ [name]) = some .directory)
    (hnoFile : fs.node? (here ++ [name]) = none ∨ fs.node? (here ++ [name]) = some .directory)
    (helse : ∀ k, k ≠ here ++ [name] → fs₁.node? k = fs.node? k) :
    MadeAlong fs here (name :: names) fs' := by
  have hself := not_onTheWay_self (here ++ [name]) names
  have hfirst : fs'.node? (here ++ [name]) = some .directory := by rw [h.elsewhere _ hself, hmade]
  constructor
  · rw [h.home, hhome]
  · intro k hk
    rw [onTheWay_cons, not_or] at hk
    rw [h.elsewhere k hk.2, helse k hk.1]
  · intro k hk
    rcases onTheWay_cons.1 hk with rfl | hk
    · exact hfirst
    · exact h.made k hk
  · intro k hk
    rcases onTheWay_cons.1 hk with rfl | hk
    · exact hnoFile
    · have hne : k ≠ here ++ [name] := fun heq => hself (heq ▸ hk)
      rw [← helse k hne]
      exact h.noFile k hk
  · rw [List.map_cons, FileSystem.walk, if_neg hlength, hfirst, List.append_cons here name names]
    exact h.way

theorem MadeAlong.nil (fs : FileSystem) (here : Location) : MadeAlong fs here [] fs := by
  have hnone (k : Location) : ¬ OnTheWay here [] k := by
    rintro ⟨way, hne, hway, -⟩
    exact hne (List.prefix_nil.1 hway)
  constructor
  · rfl
  · exact fun _ _ => rfl
  · exact fun k hk => absurd hk (hnone k)
  · exact fun k hk => absurd hk (hnone k)
  · rw [List.append_nil]
    rfl

theorem MadeAlong.keeps {fs fs' : FileSystem} {here : Location} {names : List String}
    (h : MadeAlong fs here names fs') : fs.Keeps fs' := by
  refine ⟨h.home, fun k hk => ?_⟩
  by_cases hway : OnTheWay here names k
  · exact h.made k hway
  · rw [h.elsewhere k hway, hk]

theorem madeAlong {fs fs' : FileSystem} {here l : Location} {names : List String}
    (h : fs.makeAlong here (names.map .name) = (fs', .ok l)) : MadeAlong fs here names fs' := by
  induction names generalizing fs here with
  | nil =>
    cases h
    exact .nil _ _
  | cons name names ih =>
    rw [List.map_cons, makeAlong] at h
    split at h
    · cases h
    · rename_i hlength
      cases hnode : fs.node? (here ++ [name]) with
      | none =>
        simp only [hnode] at h
        split at h
        · cases h
        · refine (ih h).cons hlength rfl ?_ (.inl hnode) ?_
          · exact node?_put_concat _ _ _ _
          · exact fun k hk => node?_put_of_ne _ hk _
      | some node =>
        cases node with
        | file content => simp [hnode] at h
        | directory =>
          simp only [hnode] at h
          exact (ih h).cons hlength rfl hnode (.inr hnode) fun _ _ => rfl

/-! ## Outside of a directory -/

/-- Where steps lead from `here`, whether or not anything is there. -/
def follow (here : Location) : List Path.Component → Location
  | [] => here
  | .root :: r => follow [] r
  | .current :: r => follow here r
  | .up :: r => follow here.dropLast r
  | .name name :: r => follow (here ++ [name]) r

theorem follow_append (here : Location) (first second : List Path.Component) :
    follow here (first ++ second) = follow (follow here first) second := by
  induction first generalizing here with
  | nil => rfl
  | cons step first ih => cases step <;> exact ih _

theorem follow_names (here : Location) (names : List String) :
    follow here (names.map .name) = here ++ names := by
  induction names generalizing here with
  | nil => rw [List.append_nil]; rfl
  | cons name names ih =>
    rw [List.map_cons, follow, ih, List.append_assoc, List.singleton_append]

theorem follow_of_walk {fs : FileSystem} {here l : Location} {steps : List Path.Component}
    (h : fs.walk here steps = .ok l) : l = follow here steps := by
  induction steps generalizing here with
  | nil => exact (Except.ok.inj h).symm
  | cons step steps ih =>
    cases step with
    | name name =>
      rw [FileSystem.walk] at h
      split at h
      · cases h
      · split at h
        · cases h
        · cases h
        · exact ih h
    | _ => exact ih h

theorem follow_of_locate {fs : FileSystem} {p : Path} {l : Location} (h : fs.locate p = .ok l) :
    l = follow fs.home p.components := by
  obtain ⟨u, -, h⟩ := bind_eq_ok.1 h
  split at h
  · rename_i name hlast
    obtain ⟨here, hhere, h⟩ := bind_eq_ok.1 h
    split at h
    · cases h
    · obtain ⟨front, hfront⟩ := List.getLast?_eq_some_iff.1 hlast
      rw [hfront, List.dropLast_concat] at hhere
      rw [hfront, follow_append, ← follow_of_walk hhere]
      exact (Except.ok.inj h).symm
  · exact follow_of_walk h

/-- Not strictly below the directory `base`. -/
def Outside (base l : Location) : Prop := ∀ place ≠ [], l ≠ base ++ place

theorem Outside.ne_concat {base l : Location} (h : Outside base l) (name : String) :
    l ≠ base ++ [name] := h [name] (List.cons_ne_nil _ _)

theorem Outside.concat {base l : Location} (h : Outside base l) (name : String) :
    Outside (base ++ [name]) l := by
  intro place _ heq
  rw [List.append_assoc] at heq
  exact h _ (List.append_ne_nil_of_left_ne_nil (List.cons_ne_nil _ _) _) heq

theorem makeAlong_keeps (fs : FileSystem) (here : Location) (steps : List Path.Component) :
    fs.Keeps (fs.makeAlong here steps).1 := by
  induction steps generalizing fs here with
  | nil => exact ⟨rfl, fun _ h => h⟩
  | cons step steps ih =>
    cases step with
    | name name =>
      rw [makeAlong]
      split
      · exact ⟨rfl, fun _ h => h⟩
      · split
        · exact ih fs _
        · exact ⟨rfl, fun _ h => h⟩
        · split
          · exact ⟨rfl, fun _ h => h⟩
          · obtain ⟨hhome, hkeeps⟩ := ih (fs.put (here ++ [name]) .directory) (here ++ [name])
            refine ⟨hhome, fun l hl => hkeeps l ?_⟩
            by_cases heq : l = here ++ [name]
            · rw [heq, node?_put_concat]
            · rw [node?_put_of_ne _ heq, hl]
    | _ => exact ih fs _

/-- Names below a directory change nothing outside of it. -/
theorem node?_makeAlong_names {fs : FileSystem} {here l : Location} (h : Outside here l)
    (names : List String) : (fs.makeAlong here (names.map .name)).1.node? l = fs.node? l := by
  induction names generalizing fs here with
  | nil => rfl
  | cons name names ih =>
    rw [List.map_cons, makeAlong]
    split
    · rfl
    · split
      · exact ih (h.concat name)
      · rfl
      · split
        · rfl
        · rw [ih (h.concat name), node?_put_of_ne _ (h.ne_concat name)]

/-- Outside of the directory to which the steps lead, names after them change nothing more. -/
theorem node?_makeAlong_append {fs : FileSystem} {here l : Location} {steps : List Path.Component}
    (h : Outside (follow here steps) l) (names : List String) :
    (fs.makeAlong here (steps ++ names.map .name)).1.node? l =
      (fs.makeAlong here steps).1.node? l := by
  induction steps generalizing fs here with
  | nil => exact node?_makeAlong_names h names
  | cons step steps ih =>
    cases step with
    | name name =>
      rw [List.cons_append, makeAlong, makeAlong]
      split
      · rfl
      · split
        · exact ih h
        · rfl
        · split
          · rfl
          · exact ih h
    | _ => exact ih h

/-- What the first of some steps leave is as it was before, or as all of them leave it. -/
theorem node?_makeAlong_or (fs : FileSystem) (here : Location)
    (first second : List Path.Component) (l : Location) :
    (fs.makeAlong here first).1.node? l = fs.node? l ∨
      (fs.makeAlong here first).1.node? l = (fs.makeAlong here (first ++ second)).1.node? l := by
  induction first generalizing fs here with
  | nil => exact .inl rfl
  | cons step first ih =>
    cases step with
    | name name =>
      rw [List.cons_append, makeAlong, makeAlong]
      split
      · exact .inl rfl
      · split
        · exact ih fs _
        · exact .inl rfl
        · split
          · exact .inl rfl
          · by_cases heq : l = here ++ [name]
            · right
              have hput : (fs.put (here ++ [name]) .directory).node? l = some .directory := by
                rw [heq, node?_put_concat]
              rw [(makeAlong_keeps _ _ first).2 l hput, (makeAlong_keeps _ _ _).2 l hput]
            · rw [← node?_put_of_ne fs heq .directory]
              exact ih (fs.put (here ++ [name]) .directory) (here ++ [name])
    | _ => exact ih fs _

end StubForge.FileSystem
