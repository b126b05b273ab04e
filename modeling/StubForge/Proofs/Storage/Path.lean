import Mathlib.Data.List.Basic
import StubForge.Proofs.Text.Split
import StubForge.Storage.Path

/-! Joining paths: what a plain segment adds to the pieces and the components of a path. -/
namespace StubForge.Path

/-- A segment that is a component of its own: the name of a file or of a directory. -/
structure Plain (segment : String) : Prop where
  ne_empty : segment ≠ ""
  noSlash : '/' ∉ segment.toList
  ne_current : segment ≠ "."
  ne_up : segment ≠ ".."

namespace Plain

variable {segment : String} (h : Plain segment)
include h

theorem pieces : Text.split (· == '/') segment.toList = [segment.toList] := by
  refine Text.split_of_forall_not fun c hc => ?_
  simp only [beq_eq_false_iff_ne]
  rintro rfl
  exact h.noSlash hc

end Plain

/-- The pieces of a segment follow those of the path, apart from an empty one at its end. -/
theorem pieces_join (p : Path) {segment : String} (hhead : segment.toList.head? ≠ some '/') :
    (p.text = "" ∧ p.join segment = ⟨segment⟩) ∨
      ∃ first rest fillers, p.pieces = first :: (rest ++ fillers) ∧ (∀ f ∈ fillers, f = []) ∧
        (p.join segment).pieces = first :: (rest ++ Text.split (· == '/') segment.toList) ∧
        (p.join segment).isAbsolute = p.isAbsolute := by
  rw [join, if_neg hhead]
  by_cases hempty : p.text = ""
  · exact .inl ⟨hempty, by rw [if_pos (.inl hempty), hempty, String.empty_append]⟩
  right
  by_cases hslash : p.text.toList.getLast? = some '/'
  · obtain ⟨front, hfront⟩ := List.getLast?_eq_some_iff.1 hslash
    obtain ⟨first, rest, hrest⟩ := List.exists_cons_of_ne_nil (Text.split_ne_nil (· == '/') front)
    rw [if_pos (.inr hslash)]
    refine ⟨first, rest, [[]], ?_, by simp, ?_, ?_⟩
    · rw [pieces, hfront, Text.split_append rfl, hrest, Text.split_nil, List.cons_append]
    · rw [pieces, String.toList_append, hfront, List.append_assoc, List.singleton_append,
        Text.split_append rfl, hrest, List.cons_append]
    · rw [isAbsolute, isAbsolute, String.toList_append, hfront]
      simp
  · obtain ⟨first, rest, hrest⟩ :=
      List.exists_cons_of_ne_nil (Text.split_ne_nil (· == '/') p.text.toList)
    rw [if_neg (not_or.2 ⟨hempty, hslash⟩)]
    have htext : (p.text ++ "/" ++ segment).toList = p.text.toList ++ '/' :: segment.toList := by
      simp
    refine ⟨first, rest, [], ?_, by simp, ?_, ?_⟩
    · rw [pieces, hrest, List.append_nil]
    · rw [pieces, htext, Text.split_append rfl, hrest, List.cons_append]
    · have hne : p.text.toList ≠ [] := by simpa using hempty
      obtain ⟨c, r, hcr⟩ := List.exists_cons_of_ne_nil hne
      rw [isAbsolute, isAbsolute, htext, hcr, List.cons_append, List.head?_cons, List.head?_cons]

/-- A segment that leads down only: it starts with no slash, and there is no `.` and no `..`
between its slashes. -/
structure Downward (segment : String) : Prop where
  relative : segment.toList.head? ≠ some '/'
  noDots : ∀ piece ∈ Text.split (· == '/') segment.toList, piece ≠ ['.'] ∧ piece ≠ ['.', '.']

/-- The names between the slashes of a segment. -/
def names (segment : String) : List String :=
  (Text.fields (· == '/') segment.toList).map String.ofList

theorem filterMap_component? {pieces : List (List Char)}
    (h : ∀ piece ∈ pieces, piece ≠ ['.'] ∧ piece ≠ ['.', '.']) :
    pieces.filterMap component? = ((pieces.filter (· ≠ [])).map String.ofList).map .name := by
  induction pieces with
  | nil => rfl
  | cons piece pieces ih =>
    obtain ⟨⟨hcurrent, hup⟩, hpieces⟩ := List.forall_mem_cons.1 h
    rw [List.filterMap_cons, ih hpieces]
    by_cases hempty : piece = []
    · simp [component?, isFiller, hempty]
    · simp [component?, isFiller, hempty, hcurrent, hup]

namespace Downward

variable {segment : String}

theorem of_dot_notMem (hhead : segment.toList.head? ≠ some '/') (hdot : '.' ∉ segment.toList) :
    Downward segment := by
  refine ⟨hhead, fun piece hpiece => ?_⟩
  have hdots : '.' ∉ piece := fun hmem => hdot (Text.mem_of_mem_split hpiece hmem).1
  exact ⟨fun h => hdots (by simp [h]), fun h => hdots (by simp [h])⟩

theorem components (h : Downward segment) :
    (⟨segment⟩ : Path).components = (names segment).map .name := by
  have hrelative : (⟨segment⟩ : Path).isAbsolute = false := by simpa [isAbsolute] using h.relative
  rw [names, Text.fields, ← filterMap_component? h.noDots, Path.components, Path.pieces]
  cases hpieces : Text.split (· == '/') segment.toList with
  | nil => exact absurd hpieces (Text.split_ne_nil _ _)
  | cons first rest =>
    have hcurrent := (h.noDots first (hpieces ▸ List.mem_cons_self)).1
    simp only [hrelative, firstComponent?, if_neg Bool.false_ne_true, if_neg hcurrent,
      List.filterMap_cons]
    cases component? first <;> rfl

end Downward

/-- A segment that leads down adds its names to the components. -/
theorem components_join_of_downward (p : Path) {segment : String} (h : Downward segment) :
    (p.join segment).components = p.components ++ (names segment).map .name := by
  rcases p.pieces_join h.relative with
    ⟨hempty, hjoin⟩ | ⟨first, rest, fillers, hp, hf, hjoin, habs⟩
  · obtain rfl : p = ⟨""⟩ := congrArg Path.mk hempty
    rw [hjoin, h.components]
    rfl
  · have hfillers : fillers.filterMap Path.component? = [] := by
      rw [List.filterMap_eq_nil_iff]
      intro f hmem
      rw [hf f hmem]
      rfl
    simp only [components, hp, hjoin, habs, List.filterMap_append, hfillers,
      filterMap_component? h.noDots, List.append_nil, List.append_assoc]
    rfl

namespace Plain

variable {segment : String} (h : Plain segment)
include h

theorem downward : Downward segment := by
  refine ⟨fun hs => h.noSlash (List.mem_of_mem_head? hs), fun piece hpiece => ?_⟩
  rw [h.pieces, List.mem_singleton] at hpiece
  subst hpiece
  exact ⟨fun hs => h.ne_current (String.ext_iff.2 hs), fun hs => h.ne_up (String.ext_iff.2 hs)⟩

theorem exists_head? : ∃ c, c ≠ '/' ∧ segment.toList.head? = some c := by
  obtain ⟨c, r, hcr⟩ := List.exists_cons_of_ne_nil (by simpa using h.ne_empty : segment.toList ≠ [])
  refine ⟨c, ?_, by rw [hcr, List.head?_cons]⟩
  rintro rfl
  exact h.noSlash (hcr ▸ List.mem_cons_self)

theorem names : names segment = [segment] := by
  have hempty : segment.toList ≠ [] := by simpa using h.ne_empty
  simp [Path.names, Text.fields, h.pieces, hempty]

end Plain

theorem components_join (p : Path) {segment : String} (h : Plain segment) :
    (p.join segment).components = p.components ++ [.name segment] := by
  rw [p.components_join_of_downward h.downward, h.names]
  rfl

theorem getLast?_pieces_join (p : Path) {segment : String} (h : Plain segment) :
    (p.join segment).pieces.getLast? = some segment.toList := by
  rcases p.pieces_join h.downward.relative with
    ⟨-, hjoin⟩ | ⟨first, rest, fillers, -, -, hjoin, -⟩
  · rw [hjoin, pieces, h.pieces]
    rfl
  · rw [hjoin, h.pieces, ← List.cons_append, List.getLast?_concat]

theorem join_inj (p : Path) {first second : String} (hfirst : Plain first) (hsecond : Plain second)
    (h : p.join first = p.join second) : first = second := by
  have hlast := p.getLast?_pieces_join hfirst
  rw [h, p.getLast?_pieces_join hsecond] at hlast
  exact (String.ext_iff.2 (Option.some.inj hlast)).symm

theorem endsInDot_join (p : Path) {segment : String} (h : Plain segment) :
    (p.join segment).endsInDot = false := by
  have hempty : segment.toList ≠ [] := by simpa using h.ne_empty
  have hcurrent : segment.toList ≠ ['.'] := fun hs => h.ne_current (String.ext_iff.2 hs)
  obtain ⟨front, hfront⟩ := List.getLast?_eq_some_iff.1 (p.getLast?_pieces_join h)
  have hlast : ([segment.toList].filter (· ≠ [])) = [segment.toList] := by simp [h.ne_empty]
  rw [endsInDot, hfront, List.filter_append, hlast, List.getLast?_concat]
  simpa using hcurrent

theorem text_join_ne_empty (p : Path) {segment : String} (h : Plain segment) :
    (p.join segment).text ≠ "" := by
  intro hempty
  have hlast := p.getLast?_pieces_join h
  rw [pieces, hempty] at hlast
  exact h.ne_empty (String.ext_iff.2 (Option.some.inj hlast).symm)

/-- A path with segments below it that lead down, one after another. -/
theorem components_foldl_join_of_downward (p : Path) {segments : List String}
    (h : ∀ s ∈ segments, Downward s) : (segments.foldl Path.join p).components =
      p.components ++ (segments.flatMap names).map .name := by
  induction segments generalizing p with
  | nil => rw [List.foldl_nil, List.flatMap_nil, List.map_nil, List.append_nil]
  | cons s segments ih =>
    rw [List.forall_mem_cons] at h
    rw [List.foldl_cons, ih _ h.2, p.components_join_of_downward h.1, List.flatMap_cons,
      List.map_append, List.append_assoc]

theorem components_foldl_join (p : Path) {segments : List String}
    (h : ∀ s ∈ segments, Plain s) :
    (segments.foldl Path.join p).components = p.components ++ segments.map .name := by
  have hnames : segments.flatMap names = segments :=
    (List.flatMap_congr fun s hs => (h s hs).names).trans (List.flatMap_singleton' _)
  rw [p.components_foldl_join_of_downward fun s hs => (h s hs).downward, hnames]

theorem foldl_join_of_ne_nil (p : Path) {segments : List String} (h : segments ≠ []) :
    ∃ above : Path, ∃ last ∈ segments, segments.foldl Path.join p = above.join last := by
  have hjoin : (segments.dropLast ++ [segments.getLast h]).foldl Path.join p =
      (segments.dropLast.foldl Path.join p).join (segments.getLast h) := by
    rw [List.foldl_append]
    rfl
  rw [List.dropLast_concat_getLast] at hjoin
  exact ⟨_, segments.getLast h, List.getLast_mem h, hjoin⟩

/-! ## Segments one after another as one segment -/

/-- A plain segment ends in no slash, so the next one comes after a slash of its own. -/
theorem join_join (p : Path) {first second : String} (hfirst : Plain first)
    (hsecond : second.toList.head? ≠ some '/') :
    (p.join first).join second = p.join (first ++ "/" ++ second) := by
  have hne : first.toList ≠ [] := by simpa using hfirst.ne_empty
  have hhead : (first ++ "/" ++ second).toList.head? ≠ some '/' := by
    rw [String.toList_append, String.toList_append, List.append_assoc,
      List.head?_append_of_ne_nil _ hne]
    exact hfirst.downward.relative
  have hends (front : String) : ¬ (front ++ first = "" ∨
      (front ++ first).toList.getLast? = some '/') := by
    rw [String.append_eq_empty_iff, String.toList_append, List.getLast?_append_of_ne_nil _ hne]
    rintro (hempty | hlast)
    · exact hfirst.ne_empty hempty.2
    · exact hfirst.noSlash (List.mem_of_getLast? hlast)
  have houter (front : String) : (⟨front ++ first⟩ : Path).join second =
      ⟨front ++ first ++ "/" ++ second⟩ := by rw [join, if_neg hsecond, if_neg (hends front)]
  by_cases hend : p.text = "" ∨ p.text.toList.getLast? = some '/'
  · have hinner : p.join first = ⟨p.text ++ first⟩ := by
      rw [join, if_neg hfirst.downward.relative, if_pos hend]
    rw [hinner, houter, join, if_neg hhead, if_pos hend]
    simp only [String.append_assoc]
  · have hinner : p.join first = ⟨p.text ++ "/" ++ first⟩ := by
      rw [join, if_neg hfirst.downward.relative, if_neg hend]
    rw [hinner, houter, join, if_neg hhead, if_neg hend]
    simp only [String.append_assoc]

/-- Plain segments one after another are a single segment with slashes between them. -/
theorem foldl_join_join (p : Path) {segments : List String} (h : ∀ s ∈ segments, Plain s)
    (hne : segments ≠ []) {name : String} (hname : name.toList.head? ≠ some '/') :
    (segments.foldl Path.join p).join name =
      p.join ("/".intercalate segments ++ "/" ++ name) := by
  induction segments generalizing p with
  | nil => exact absurd rfl hne
  | cons s rest ih =>
    rw [List.forall_mem_cons] at h
    cases rest with
    | nil =>
      rw [String.intercalate_singleton, List.foldl_cons, List.foldl_nil, p.join_join h.1 hname]
    | cons t rest =>
      have ht := h.2 t List.mem_cons_self
      have hhead : ("/".intercalate (t :: rest) ++ "/" ++ name).toList.head? ≠ some '/' := by
        obtain ⟨c, hslash, hc⟩ := ht.exists_head?
        rw [String.append_assoc, String.toList_append, List.head?_append,
          Text.head?_intercalate "/" hc rest, Option.some_or]
        exact fun heq => hslash (Option.some.inj heq)
      rw [List.foldl_cons, ih _ h.2 (List.cons_ne_nil t rest), p.join_join h.1 hhead,
        String.intercalate_cons_cons]
      simp only [String.append_assoc]

/-- Relative texts below one path are told apart by it. -/
theorem join_right_inj (p : Path) {first second : String}
    (hfirst : first.toList.head? ≠ some '/') (hsecond : second.toList.head? ≠ some '/') :
    p.join first = p.join second ↔ first = second := by
  rw [join, if_neg hfirst, join, if_neg hsecond]
  split <;> simp [String.append_assoc, String.append_right_inj]

/-! ## Below a root -/

/-- All steps of `p` after those of `root` are names, and there is one at least. -/
def Below (root p : Path) : Prop :=
  ∃ names : List String, names ≠ [] ∧ p.components = root.components ++ names.map .name

theorem component?_ne_root (piece : List Char) : component? piece ≠ some .root := by
  rw [component?]
  split
  · nofun
  · split <;> nofun

theorem root_mem_components {p : Path} : .root ∈ p.components ↔ p.isAbsolute = true := by
  have hrest (pieces : List (List Char)) : .root ∉ pieces.filterMap component? := by
    intro hmem
    obtain ⟨piece, -, hpiece⟩ := List.mem_filterMap.1 hmem
    exact component?_ne_root piece hpiece
  have hfirst (piece : List Char) : firstComponent? false piece ≠ some .root := by
    rw [firstComponent?, if_neg Bool.false_ne_true]
    split
    · nofun
    · exact component?_ne_root piece
  rw [components]
  cases hpieces : p.pieces with
  | nil => exact absurd hpieces (Text.split_ne_nil _ _)
  | cons first rest =>
    cases p.isAbsolute with
    | true => simp [firstComponent?]
    | false => simp [hrest, hfirst]

theorem isAbsolute_join_of_head {p : Path} {segment : String}
    (h : segment.toList.head? = some '/') : (p.join segment).isAbsolute = true := by
  rw [join, if_pos h, isAbsolute, h]
  rfl

theorem isAbsolute_join {p : Path} (h : p.isAbsolute = true) (segment : String) :
    (p.join segment).isAbsolute = true := by
  by_cases hhead : segment.toList.head? = some '/'
  · exact isAbsolute_join_of_head hhead
  · rcases p.pieces_join hhead with ⟨hempty, -⟩ | ⟨-, -, -, -, -, -, habs⟩
    · obtain rfl : p = ⟨""⟩ := congrArg Path.mk hempty
      cases h
    · rw [habs, h]

theorem isAbsolute_foldl_join {p : Path} (h : p.isAbsolute = true) (segments : List String) :
    (segments.foldl Path.join p).isAbsolute = true := by
  induction segments generalizing p with
  | nil => exact h
  | cons s segments ih => exact ih (isAbsolute_join h s)

/-- An absolute segment makes the path absolute, whatever comes before and after it. -/
theorem isAbsolute_foldl_join_of_mem (p : Path) {segments : List String} {s : String}
    (hs : s ∈ segments) (hhead : s.toList.head? = some '/') :
    (segments.foldl Path.join p).isAbsolute = true := by
  obtain ⟨before, after, rfl⟩ := List.append_of_mem hs
  rw [List.foldl_append, List.foldl_cons]
  exact isAbsolute_foldl_join (isAbsolute_join_of_head hhead) after

/-- An absolute path is not below a relative one. -/
theorem Below.isAbsolute {root p : Path} (h : root.Below p) (hroot : root.isAbsolute = false) :
    p.isAbsolute = false := by
  obtain ⟨names, -, hp⟩ := h
  rw [Bool.eq_false_iff, Ne, ← root_mem_components] at hroot ⊢
  rw [hp, List.mem_append, not_or]
  exact ⟨hroot, by simp⟩

end StubForge.Path
