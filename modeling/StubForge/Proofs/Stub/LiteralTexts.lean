import Mathlib
import StubForge.Proofs.Text.Unquoted
import StubForge.Stub.Naming

/-! Values are told apart by their texts. The text of a value ends where a delimiter follows, so a
reader that goes through nested containers always knows where it is. -/
namespace StubForge

/-! ## Texts before a delimiter -/

namespace Text

/-- The text of a value can end here: there is no more, or one of these comes next. -/
def AtDelimiter (rest : List Char) : Prop := ∀ c ∈ rest.head?, c ∈ [',', ' ', ')']

/-- Of all that `P` picks, only `a` has its text at the start of a text that begins with it. -/
def Recognizable {α : Type} (P : α → Prop) (text : α → String) (a : α) : Prop :=
  ∀ b, P b → ∀ r s, AtDelimiter r → AtDelimiter s →
    (text a).toList ++ r = (text b).toList ++ s → a = b ∧ r = s

/-- A word reaches as far as its characters do. -/
theorem append_inj_of_word {p : Char → Bool} {a b r s : List Char} (ha : ∀ c ∈ a, p c = true)
    (hb : ∀ c ∈ b, p c = true) (hr : ∀ c ∈ r.head?, p c = false)
    (hs : ∀ c ∈ s.head?, p c = false) (h : a ++ r = b ++ s) : a = b ∧ r = s := by
  have hword {a r : List Char} (ha : ∀ c ∈ a, p c = true) (hr : ∀ c ∈ r.head?, p c = false) :
      (a ++ r).takeWhile p = a := by
    rw [List.takeWhile_append_of_pos ha]
    cases r with
    | nil => simp
    | cons c r => simp [hr c rfl]
  have hab : a = b := by rw [← hword ha hr, h, hword hb hs]
  subst hab
  exact ⟨rfl, List.append_cancel_left h⟩

theorem intercalate_cons (between x : List Char) (xs : List (List Char)) :
    between.intercalate (x :: xs) = x ++ xs.flatMap (between ++ ·) := by
  induction xs generalizing x with
  | nil => simp
  | cons y xs ih => simp [List.intercalate_cons_cons, ih]

section
variable {α : Type} {P : α → Prop} {text : α → String}

theorem atDelimiter_tail (xs : List α) (r : List Char) :
    AtDelimiter (xs.flatMap (fun x => [',', ' '] ++ (text x).toList) ++ ')' :: r) := by
  cases xs <;> simp [AtDelimiter]

/-- Items with a comma before each, up to the bracket that closes the list. -/
theorem Recognizable.tail {xs ys : List α} (hxs : ∀ x ∈ xs, Recognizable P text x)
    (hys : ∀ y ∈ ys, P y) {r s : List Char}
    (h : xs.flatMap (fun x => [',', ' '] ++ (text x).toList) ++ ')' :: r =
      ys.flatMap (fun y => [',', ' '] ++ (text y).toList) ++ ')' :: s) : xs = ys ∧ r = s := by
  induction xs generalizing ys with
  | nil =>
    cases ys with
    | nil => simpa using h
    | cons y ys => simp at h
  | cons x xs ih =>
    cases ys with
    | nil => simp at h
    | cons y ys =>
      rw [List.forall_mem_cons] at hxs hys
      simp only [List.flatMap_cons, List.append_assoc, List.append_cancel_left_eq] at h
      obtain ⟨rfl, htail⟩ := hxs.1 y hys.1 _ _ (atDelimiter_tail xs r) (atDelimiter_tail ys s) h
      obtain ⟨rfl, hrs⟩ := ih hxs.2 hys.2 htail
      exact ⟨rfl, hrs⟩

/-- Items between commas, up to the bracket that closes the list, which starts none of them. -/
theorem Recognizable.items {xs ys : List α} (hxs : ∀ x ∈ xs, Recognizable P text x)
    (hP : ∀ x ∈ xs, P x) (hys : ∀ y ∈ ys, P y)
    (hopen : ∀ a, P a → ∃ c t, (text a).toList = c :: t ∧ c ≠ ')') {r s : List Char}
    (h : (Dialect.commaSeparated (xs.map text)).toList ++ ')' :: r =
      (Dialect.commaSeparated (ys.map text)).toList ++ ')' :: s) : xs = ys ∧ r = s := by
  have hchars (x : α) (xs : List α) :
      (Dialect.commaSeparated ((x :: xs).map text)).toList =
        (text x).toList ++ xs.flatMap (fun x => [',', ' '] ++ (text x).toList) := by
    simp [Dialect.commaSeparated, String.toList_intercalate, intercalate_cons, List.flatMap_map]
  have hempty : (Dialect.commaSeparated (([] : List α).map text)).toList = [] := by
    simp [Dialect.commaSeparated]
  cases xs with
  | nil =>
    cases ys with
    | nil => simpa using h
    | cons y ys =>
      obtain ⟨c, t, hc, hne⟩ := hopen y (hys y List.mem_cons_self)
      rw [hempty, hchars, hc] at h
      exact absurd (List.cons.inj h).1.symm hne
  | cons x xs =>
    cases ys with
    | nil =>
      obtain ⟨c, t, hc, hne⟩ := hopen x (hP x List.mem_cons_self)
      rw [hempty, hchars, hc] at h
      exact absurd (List.cons.inj h).1 hne
    | cons y ys =>
      rw [List.forall_mem_cons] at hxs hys
      rw [hchars, hchars, List.append_assoc, List.append_assoc] at h
      obtain ⟨rfl, htail⟩ := hxs.1 y hys.1 _ _ (atDelimiter_tail xs r) (atDelimiter_tail ys s) h
      obtain ⟨rfl, hrs⟩ := Recognizable.tail hxs.2 hys.2 htail
      exact ⟨rfl, hrs⟩

/-- The text of a map's entry gives away its key and its value. -/
theorem Recognizable.mapEntry (d : Dialect) {e : α × α} (hkey : Recognizable P text e.1)
    (hvalue : Recognizable P text e.2) :
    Recognizable (fun e => P e.1 ∧ P e.2) (fun e => d.mapEntry (text e.1, text e.2)) e := by
  rintro ⟨key, value⟩ ⟨hPkey, hPvalue⟩ r s hr hs h
  cases d with
  | scala =>
    have hspace (t : List Char) : AtDelimiter (" -> ".toList ++ t) := by simp [AtDelimiter]
    simp only [Dialect.mapEntry, String.toList_append, List.append_assoc] at h
    obtain ⟨hk, h⟩ := hkey key hPkey _ _ (hspace _) (hspace _) h
    obtain ⟨hv, hrs⟩ := hvalue value hPvalue r s hr hs (List.append_cancel_left h)
    exact ⟨Prod.ext hk hv, hrs⟩
  | java =>
    have hcomma (t : List Char) : AtDelimiter (", ".toList ++ t) := by simp [AtDelimiter]
    have hclose (t : List Char) : AtDelimiter (")".toList ++ t) := by simp [AtDelimiter]
    simp only [Dialect.mapEntry, String.toList_append, List.append_assoc] at h
    obtain ⟨hk, h⟩ := hkey key hPkey _ _ (hcomma _) (hcomma _) (List.append_cancel_left h)
    obtain ⟨hv, h⟩ := hvalue value hPvalue _ _ (hclose r) (hclose s) (List.append_cancel_left h)
    exact ⟨Prod.ext hk hv, List.append_cancel_left h⟩

end
end Text

/-! ## Numbers -/

theorem isDigit_or_minus_of_mem_repr {i : Int} {c : Char} (h : c ∈ i.repr.toList) :
    c.isDigit = true ∨ c = '-' := by
  have hnat {n : Nat} (h : c ∈ n.repr.toList) : c.isDigit = true := by
    rw [Nat.toList_repr] at h
    exact Nat.isDigit_of_mem_toDigits (by decide) (by decide) h
  cases i with
  | ofNat n => exact .inl (hnat h)
  | negSucc n =>
    rw [Int.repr, String.toList_append, List.mem_append] at h
    rcases h with h | h
    · exact .inr (by simpa using h)
    · exact .inl (hnat h)

theorem exists_head_repr (i : Int) :
    ∃ c t, i.repr.toList = c :: t ∧ (c.isDigit = true ∨ c = '-') := by
  have hne : i.repr.toList ≠ [] := by
    cases i with
    | ofNat n => simp [Int.repr, Nat.toList_repr, Nat.toDigits_ne_nil]
    | negSucc n => simp [Int.repr]
  obtain ⟨c, t, ht⟩ := List.exists_cons_of_ne_nil hne
  exact ⟨c, t, ht, isDigit_or_minus_of_mem_repr (ht ▸ List.mem_cons_self)⟩

namespace Naming

/-- The suffix follows the digits of the integer, so that it tells the two ranges apart as well. -/
theorem integer_injective : Function.Injective integer := by
  intro i j h
  have hsuffix (i j : Int) : i.repr ++ "L" ≠ j.repr := by
    intro heq
    have hmem : 'L' ∈ j.repr.toList := by rw [← heq]; simp
    have hL := isDigit_or_minus_of_mem_repr hmem
    simp at hL
  rw [← Int64.toInt_inj, ← Int.repr_inj]
  simp only [integer] at h
  split at h <;> split at h
  · exact h
  · exact absurd h.symm (hsuffix _ _)
  · exact absurd h (hsuffix _ _)
  · exact (String.append_left_inj _).1 h

theorem exists_head_integer (i : Int64) :
    ∃ c t, (integer i).toList = c :: t ∧ (c.isDigit = true ∨ c = '-') := by
  obtain ⟨c, t, ht, hc⟩ := exists_head_repr i.toInt
  simp only [integer]
  split
  · exact ⟨c, t, ht, hc⟩
  · exact ⟨c, t ++ ['L'], by simp [ht], hc⟩

/-- A character that the text of an integer can have. -/
def isNumeral (c : Char) : Bool := c.isDigit || c == '-' || c == 'L'

theorem isNumeral_of_mem_integer {i : Int64} {c : Char} (h : c ∈ (integer i).toList) :
    isNumeral c = true := by
  have hmem : c ∈ i.toInt.repr.toList ∨ c = 'L' := by
    simp only [integer] at h
    split at h
    · exact .inl h
    · simpa using h
  rcases hmem with hmem | rfl
  · rcases isDigit_or_minus_of_mem_repr hmem with hdigit | rfl
    · simp [isNumeral, hdigit]
    · rfl
  · rfl

theorem integer_append_inj {i j : Int64} {r s : List Char} (hr : Text.AtDelimiter r)
    (hs : Text.AtDelimiter s) (h : (integer i).toList ++ r = (integer j).toList ++ s) :
    i = j ∧ r = s := by
  have hend {r : List Char} (hr : Text.AtDelimiter r) : ∀ c ∈ r.head?, isNumeral c = false := by
    have hdelimiters : [',', ' ', ')'].all (!isNumeral ·) = true := by decide
    intro c hc
    simpa using List.all_eq_true.1 hdelimiters c (hr c hc)
  obtain ⟨hij, hrs⟩ := Text.append_inj_of_word (fun _ => isNumeral_of_mem_integer)
    (fun _ => isNumeral_of_mem_integer) (hend hr) (hend hs) h
  exact ⟨integer_injective (String.ext_iff.2 hij), hrs⟩

end Naming

/-! ## Values -/

namespace Literal

/-- A value that mentions no name of a document and has no fraction, at any depth. -/
inductive Ground : Literal → Prop
  | null : Ground .null
  | string (text : String) : Ground (.string text)
  | int (value : Int64) : Ground (.int value)
  | bool (value : Bool) : Ground (.bool value)
  | list {items : List Literal} : (∀ v ∈ items, Ground v) → Ground (.list items)
  | set {items : List Literal} : (∀ v ∈ items, Ground v) → Ground (.set items)
  | map {entries : List (Literal × Literal)} :
      (∀ e ∈ entries, Ground e.1) → (∀ e ∈ entries, Ground e.2) → Ground (.map entries)

/-- What the first characters of a text tell about its value. -/
inductive Shape
  | null
  | bool (value : Bool)
  | string
  | container (kind : Container)
  deriving DecidableEq, Repr

/-- The shape of a value. A number has none, for its text says nothing else than the number. -/
def shape? : Literal → Option Shape
  | .null => some .null
  | .bool b => some (.bool b)
  | .string _ => some .string
  | .list _ => some (.container .list)
  | .set _ => some (.container .set)
  | .map _ => some (.container .map)
  | .double _ | .int _ | .enum _ _ | .id _ => none

def Shape.all : List Shape :=
  [.null, .bool false, .bool true, .string, .container .list, .container .set, .container .map]

theorem Shape.mem_all (a : Shape) : a ∈ all := by
  cases a with
  | bool b => cases b <;> decide
  | container kind => cases kind <;> decide
  | _ => decide

end Literal

namespace Dialect
open Literal (Shape)

/-- What the text of a value of the given shape starts with. -/
def opening (d : Dialect) (mutable : Bool) : Shape → String
  | .null => nullMarker
  | .bool b => if b then "true" else "false"
  | .string => "\""
  | .container kind =>
    match d, kind, mutable with
    | scala, .list, false => "Seq("
    | scala, .list, true => "mutable.Buffer("
    | scala, .set, false => "Set("
    | scala, .set, true => "mutable.Set("
    | scala, .map, false => "Map("
    | scala, .map, true => "mutable.Map("
    | java, .list, false => "List.of("
    | java, .list, true => "new ArrayList<>(Arrays.asList("
    | java, .set, false => "Set.of("
    | java, .set, true => "new HashSet<>(Arrays.asList("
    | java, .map, false => "Map.ofEntries("
    | java, .map, true => "new HashMap<>(Map.ofEntries("

/-- What the text of a container ends in. -/
def closing : Dialect → Bool → String
  | java, true => "))"
  | _, _ => ")"

/-- No opening starts with another. -/
theorem opening_inj {d : Dialect} {mutable : Bool} {a b : Shape}
    (h : (d.opening mutable a).toList <+: (d.opening mutable b).toList) : a = b := by
  have hall : ∀ a ∈ Shape.all, ∀ b ∈ Shape.all,
      (d.opening mutable a).toList <+: (d.opening mutable b).toList → a = b := by
    cases d <;> cases mutable <;> decide +kernel
  exact hall a a.mem_all b b.mem_all h

/-- A character that starts neither a number nor the end of a container. -/
def opens (c : Char) : Bool := !c.isDigit && c != '-' && c != ')'

theorem exists_head_opening (d : Dialect) (mutable : Bool) (a : Shape) :
    ∃ c t, (d.opening mutable a).toList = c :: t ∧ opens c = true := by
  have hall : Shape.all.all (fun a => (d.opening mutable a).toList.head?.any opens) = true := by
    cases d <;> cases mutable <;> decide +kernel
  obtain ⟨c, hhead, hc⟩ := (Option.any_eq_true _ _).1 (List.all_eq_true.1 hall a a.mem_all)
  obtain ⟨t, ht⟩ := List.head?_eq_some_iff.1 hhead
  exact ⟨c, t, ht, hc⟩

theorem toList_closing (d : Dialect) (mutable : Bool) :
    ∃ more, (d.closing mutable).toList = ')' :: more := by
  cases d <;> cases mutable <;> exact ⟨_, rfl⟩

theorem sequenceLiteral_eq (d : Dialect) {kind : Container} (hkind : kind ≠ .map)
    (items : List String) (mutable : Bool) :
    d.sequenceLiteral kind items mutable =
      d.opening mutable (.container kind) ++ commaSeparated items ++ d.closing mutable := by
  cases kind with
  | map => exact absurd rfl hkind
  | _ => cases d <;> cases mutable <;> rfl

theorem mapLiteral_eq (d : Dialect) (entries : List (String × String)) (mutable : Bool) :
    d.mapLiteral entries mutable =
      d.opening mutable (.container .map) ++ commaSeparated (entries.map d.mapEntry) ++
        d.closing mutable := by
  cases d <;> cases mutable <;> rfl

end Dialect

namespace Naming
open Literal

variable (n : Naming) (mutable : Bool)

@[simp] theorem literal_null : n.literal mutable .null = Dialect.nullMarker := rfl

@[simp] theorem literal_bool (b : Bool) :
    n.literal mutable (.bool b) = if b then "true" else "false" := rfl

@[simp] theorem literal_string (s : String) :
    n.literal mutable (.string s) = Text.quote s := rfl

@[simp] theorem literal_int (i : Int64) : n.literal mutable (.int i) = integer i := rfl

theorem literals_eq_map (vs : List Literal) :
    n.literals mutable vs = vs.map (n.literal mutable) := by
  induction vs with
  | nil => rfl
  | cons v vs ih => exact congrArg (n.literal mutable v :: ·) ih

theorem literalEntries_eq_map (es : List (Literal × Literal)) :
    n.literalEntries mutable es =
      es.map fun e => (n.literal mutable e.1, n.literal mutable e.2) := by
  induction es with
  | nil => rfl
  | cons e es ih => exact congrArg ((n.literal mutable e.1, n.literal mutable e.2) :: ·) ih

theorem literal_list (items : List Literal) :
    n.literal mutable (.list items) =
      n.dialect.opening mutable (.container .list) ++
        Dialect.commaSeparated (items.map (n.literal mutable)) ++ n.dialect.closing mutable := by
  have hwritten : n.literal mutable (.list items) =
      n.dialect.sequenceLiteral .list (n.literals mutable items) mutable := rfl
  rw [hwritten, literals_eq_map, Dialect.sequenceLiteral_eq _ (by decide)]

theorem literal_set (items : List Literal) :
    n.literal mutable (.set items) =
      n.dialect.opening mutable (.container .set) ++
        Dialect.commaSeparated (items.map (n.literal mutable)) ++ n.dialect.closing mutable := by
  have hwritten : n.literal mutable (.set items) =
      n.dialect.sequenceLiteral .set (n.literals mutable items) mutable := rfl
  rw [hwritten, literals_eq_map, Dialect.sequenceLiteral_eq _ (by decide)]

theorem literal_map (entries : List (Literal × Literal)) :
    n.literal mutable (.map entries) =
      n.dialect.opening mutable (.container .map) ++
        Dialect.commaSeparated (entries.map fun e =>
          n.dialect.mapEntry (n.literal mutable e.1, n.literal mutable e.2)) ++
        n.dialect.closing mutable := by
  have hwritten : n.literal mutable (.map entries) =
      n.dialect.mapLiteral (n.literalEntries mutable entries) mutable := rfl
  rw [hwritten, literalEntries_eq_map, Dialect.mapLiteral_eq, List.map_map]
  rfl

/-- The text of a value that has a shape starts as the shape says. -/
theorem exists_body {v : Literal} {a : Shape} (h : v.shape? = some a) :
    ∃ body, (n.literal mutable v).toList = (n.dialect.opening mutable a).toList ++ body := by
  cases v with
  | null =>
    cases h
    exact ⟨[], by rw [literal_null, List.append_nil]; rfl⟩
  | bool b =>
    cases h
    exact ⟨[], by rw [literal_bool, List.append_nil]; rfl⟩
  | string s =>
    cases h
    exact ⟨_, by simp [Text.quoteChars, Dialect.opening]; rfl⟩
  | list items =>
    cases h
    exact ⟨_, by rw [literal_list, String.append_assoc, String.toList_append]⟩
  | set items =>
    cases h
    exact ⟨_, by rw [literal_set, String.append_assoc, String.toList_append]⟩
  | map entries =>
    cases h
    exact ⟨_, by rw [literal_map, String.append_assoc, String.toList_append]⟩
  | double d => cases h
  | int i => cases h
  | enum enumeration member => cases h
  | id name => cases h

variable {n mutable}

theorem eq_int_of_shape? {v : Literal} (hv : v.Ground) (h : v.shape? = none) : ∃ i, v = .int i := by
  cases hv with
  | int i => exact ⟨i, rfl⟩
  | _ => cases h

/-- A value with a shape and a number have texts that start in different ways. -/
theorem literal_append_ne_integer {v : Literal} {a : Shape} (h : v.shape? = some a) (i : Int64)
    (r s : List Char) : (n.literal mutable v).toList ++ r ≠ (integer i).toList ++ s := by
  obtain ⟨body, hbody⟩ := exists_body n mutable h
  obtain ⟨c, t, hc, hopens⟩ := n.dialect.exists_head_opening mutable a
  obtain ⟨e, u, he, hnumeral⟩ := exists_head_integer i
  intro heq
  rw [hbody, hc, he] at heq
  obtain rfl : c = e := (List.cons.inj heq).1
  rcases hnumeral with hdigit | rfl
  · simp [Dialect.opens, hdigit] at hopens
  · simp [Dialect.opens] at hopens

/-- Texts that start with the texts of two values are those of values of one shape. -/
theorem shape?_eq {u v : Literal} (hu : u.Ground) (hv : v.Ground) {r s : List Char}
    (h : (n.literal mutable u).toList ++ r = (n.literal mutable v).toList ++ s) :
    u.shape? = v.shape? := by
  cases ha : u.shape? with
  | none =>
    obtain ⟨i, rfl⟩ := eq_int_of_shape? hu ha
    cases hb : v.shape? with
    | none => rfl
    | some b =>
      rw [literal_int] at h
      exact absurd h.symm (literal_append_ne_integer hb i s r)
  | some a =>
    cases hb : v.shape? with
    | none =>
      obtain ⟨j, rfl⟩ := eq_int_of_shape? hv hb
      rw [literal_int] at h
      exact absurd h (literal_append_ne_integer ha j r s)
    | some b =>
      obtain ⟨body, hbody⟩ := exists_body n mutable ha
      obtain ⟨body', hbody'⟩ := exists_body n mutable hb
      rw [hbody, hbody', List.append_assoc, List.append_assoc] at h
      have hprefix := List.prefix_append (n.dialect.opening mutable a).toList (body ++ r)
      have hprefix' := List.prefix_append (n.dialect.opening mutable b).toList (body' ++ s)
      rcases List.prefix_or_prefix_of_prefix hprefix (h ▸ hprefix') with hab | hba
      · rw [Dialect.opening_inj hab]
      · rw [Dialect.opening_inj hba]

variable (n mutable) in
theorem exists_head {v : Literal} (hv : v.Ground) :
    ∃ c t, (n.literal mutable v).toList = c :: t ∧ c ≠ ')' := by
  cases ha : v.shape? with
  | none =>
    obtain ⟨i, rfl⟩ := eq_int_of_shape? hv ha
    obtain ⟨c, t, hc, hnumeral⟩ := exists_head_integer i
    refine ⟨c, t, by rw [literal_int, hc], ?_⟩
    rintro rfl
    simp at hnumeral
  | some a =>
    obtain ⟨body, hbody⟩ := exists_body n mutable ha
    obtain ⟨c, t, hc, hopens⟩ := n.dialect.exists_head_opening mutable a
    refine ⟨c, t ++ body, by rw [hbody, hc, List.cons_append], ?_⟩
    rintro rfl
    simp [Dialect.opens] at hopens

theorem exists_head_entry (e : Literal × Literal) (he : e.1.Ground ∧ e.2.Ground) :
    ∃ c t, (n.dialect.mapEntry (n.literal mutable e.1, n.literal mutable e.2)).toList = c :: t ∧
      c ≠ ')' := by
  obtain ⟨c, t, hc, hne⟩ := exists_head n mutable he.1
  cases n.dialect with
  | scala => exact ⟨c, _, by simp [Dialect.mapEntry, hc]; rfl, hne⟩
  | java => exact ⟨'M', _, by simp [Dialect.mapEntry]; rfl, by decide⟩

/-- Items between the opening and the closing of a container. -/
theorem container_append_inj {α : Type} {P : α → Prop} {text : α → String} {xs ys : List α}
    (hxs : ∀ x ∈ xs, Text.Recognizable P text x) (hP : ∀ x ∈ xs, P x) (hys : ∀ y ∈ ys, P y)
    (hopen : ∀ a, P a → ∃ c t, (text a).toList = c :: t ∧ c ≠ ')') {opening : String}
    {d : Dialect} {r s : List Char}
    (h : (opening ++ Dialect.commaSeparated (xs.map text) ++ d.closing mutable).toList ++ r =
      (opening ++ Dialect.commaSeparated (ys.map text) ++ d.closing mutable).toList ++ s) :
    xs = ys ∧ r = s := by
  obtain ⟨more, hmore⟩ := d.toList_closing mutable
  simp only [String.toList_append, List.append_assoc, hmore, List.cons_append] at h
  obtain ⟨hxy, hrs⟩ := Text.Recognizable.items hxs hP hys hopen (List.append_cancel_left h)
  exact ⟨hxy, List.append_cancel_left hrs⟩

/-- By induction on the first value: texts of one shape are compared part by part, and a part ends
where the comma, the arrow or the bracket after it says so. -/
theorem recognizable {u : Literal} (hu : u.Ground) :
    Text.Recognizable Ground (n.literal mutable) u := by
  induction hu with
  | null =>
    intro v hv r s hr hs h
    have hshape := shape?_eq .null hv h
    cases hv with
    | null => exact ⟨rfl, List.append_cancel_left h⟩
    | _ => cases hshape
  | bool b =>
    intro v hv r s hr hs h
    have hshape := shape?_eq (.bool b) hv h
    cases hv with
    | bool b' =>
      obtain rfl : b = b' := by simpa [shape?] using hshape
      exact ⟨rfl, List.append_cancel_left h⟩
    | _ => cases hshape
  | string text =>
    intro v hv r s hr hs h
    have hshape := shape?_eq (.string text) hv h
    cases hv with
    | string text' =>
      rw [literal_string, literal_string, Text.toList_quote, Text.toList_quote] at h
      obtain ⟨htext, hrs⟩ := Text.quoteChars_append_inj h
      exact ⟨congrArg _ (String.ext_iff.2 htext), hrs⟩
    | _ => cases hshape
  | int i =>
    intro v hv r s hr hs h
    have hshape := shape?_eq (.int i) hv h
    cases hv with
    | int j =>
      rw [literal_int, literal_int] at h
      obtain ⟨hij, hrs⟩ := integer_append_inj hr hs h
      exact ⟨congrArg _ hij, hrs⟩
    | _ => cases hshape
  | list hitems ih =>
    intro v hv r s hr hs h
    have hshape := shape?_eq (.list hitems) hv h
    cases hv with
    | list hitems' =>
      rw [literal_list, literal_list] at h
      obtain ⟨hvs, hrs⟩ := container_append_inj ih hitems hitems' (fun _ => exists_head n mutable) h
      exact ⟨congrArg _ hvs, hrs⟩
    | _ => cases hshape
  | set hitems ih =>
    intro v hv r s hr hs h
    have hshape := shape?_eq (.set hitems) hv h
    cases hv with
    | set hitems' =>
      rw [literal_set, literal_set] at h
      obtain ⟨hvs, hrs⟩ := container_append_inj ih hitems hitems' (fun _ => exists_head n mutable) h
      exact ⟨congrArg _ hvs, hrs⟩
    | _ => cases hshape
  | map hkeys hvalues ihkeys ihvalues =>
    intro v hv r s hr hs h
    have hshape := shape?_eq (.map hkeys hvalues) hv h
    cases hv with
    | map hkeys' hvalues' =>
      rw [literal_map, literal_map] at h
      have hentries := fun e he =>
        Text.Recognizable.mapEntry n.dialect (ihkeys e he) (ihvalues e he)
      obtain ⟨hes, hrs⟩ := container_append_inj hentries (fun e he => ⟨hkeys e he, hvalues e he⟩)
        (fun e he => ⟨hkeys' e he, hvalues' e he⟩) exists_head_entry h
      exact ⟨congrArg _ hes, hrs⟩
    | _ => cases hshape

/-- Two values without names and fractions have the same text, in either dialect and for either kind
of container, only if they are equal: no string is taken for the structure around it, and no two
numbers, lists, sets or maps fall together. -/
theorem literal_eq_iff (n : Naming) (mutable : Bool) {u v : Literal} (hu : u.Ground)
    (hv : v.Ground) : n.literal mutable u = n.literal mutable v ↔ u = v := by
  refine ⟨fun h => ?_, fun h => congrArg _ h⟩
  have hend : Text.AtDelimiter [] := by simp [Text.AtDelimiter]
  have htexts : (n.literal mutable u).toList ++ [] = (n.literal mutable v).toList ++ [] := by rw [h]
  exact (recognizable hu v hv [] [] hend hend htexts).1

/-- One string that looks like the two items of a list, between the same brackets. -/
theorem literal_ne_items :
    let n : Naming := ⟨.scala, []⟩
    n.literal false (.map [(.string "a", .list [.string "1\", \"2"])]) ≠
      n.literal false (.map [(.string "a", .list [.string "1", .string "2"])]) := by
  intro n h
  have hground (t : String) : Literal.Ground (.string t) := .string t
  have hone : Literal.Ground (.map [(.string "a", .list [.string "1\", \"2"])]) :=
    .map (by simp [hground]) (by simpa using .list (by simp [hground]))
  have htwo : Literal.Ground (.map [(.string "a", .list [.string "1", .string "2"])]) :=
    .map (by simp [hground]) (by simpa using .list (by simp [hground]))
  exact absurd ((literal_eq_iff n false hone htwo).1 h) (by decide)

end Naming
end StubForge
