/-! Dictionaries: what a template can interpolate, branch on or repeat. -/
namespace StubForge

/-- A fragment of source, a flag, a dictionary of its own or one for each repetition. -/
inductive Entry
  | code (text : String)
  | flag (value : Bool)
  | dict (entries : List (String × Entry))
  | list (items : List (List (String × Entry)))
  deriving Repr, Inhabited

/-- Entries by key; each key occurs once when the dictionary is built by `insert`. -/
abbrev Dictionary := List (String × Entry)

namespace Dictionary

def get? (d : Dictionary) (key : String) : Option Entry :=
  match d with
  | [] => none
  | (k, e) :: r => if k = key then some e else get? r key

/-- The entry under `key` replaced, or added at the end. -/
def insert (d : Dictionary) (key : String) (entry : Entry) : Dictionary :=
  match d with
  | [] => [(key, entry)]
  | (k, e) :: r => if k = key then (k, entry) :: r else (k, e) :: insert r key entry

/-- All entries of `other`, which win over those of the same key. -/
def extend (d other : Dictionary) : Dictionary :=
  other.foldl (fun d (key, entry) => insert d key entry) d

def code? (d : Dictionary) (key : String) : Option String :=
  match d.get? key with
  | some (.code text) => some text
  | _ => none

def flag? (d : Dictionary) (key : String) : Option Bool :=
  match d.get? key with
  | some (.flag value) => some value
  | _ => none

def dict? (d : Dictionary) (key : String) : Option Dictionary :=
  match d.get? key with
  | some (.dict entries) => some entries
  | _ => none

def list? (d : Dictionary) (key : String) : Option (List Dictionary) :=
  match d.get? key with
  | some (.list items) => some items
  | _ => none

@[simp] theorem get?_nil (key : String) : get? [] key = none := rfl

@[simp] theorem get?_cons (k key : String) (e : Entry) (d : Dictionary) :
    get? ((k, e) :: d) key = if k = key then some e else get? d key := rfl

@[simp] theorem get?_insert (d : Dictionary) (k key : String) (e : Entry) :
    (d.insert k e).get? key = if k = key then some e else d.get? key := by
  induction d with
  | nil => simp [insert]
  | cons p r ih =>
    obtain ⟨k', e'⟩ := p
    by_cases h : k' = k
    · subst h; by_cases h' : k' = key <;> simp [insert, h']
    · by_cases h' : k' = key
      · subst h'; simp [insert, h, Ne.symm h]
      · simp [insert, h, h', ih]

theorem get?_append (d e : Dictionary) (key : String) :
    get? (d ++ e) key = (d.get? key).or (e.get? key) := by
  induction d with
  | nil => simp
  | cons p r ih =>
    obtain ⟨k, x⟩ := p
    by_cases h : k = key <;> simp [h, ih]

/-- Marks on the repetitions of a list: which is the first and which the last. -/
def mark (first : Bool) : List Dictionary → List Dictionary
  | [] => []
  | d :: r => ((d.insert "first" (.flag first)).insert "last" (.flag r.isEmpty)) :: mark false r

def markEnds (items : List Dictionary) : List Dictionary := mark true items

example : (insert [("a", .flag true)] "a" (.code "x")).code? "a" = some "x" := by decide
example : (markEnds [[], []]).map (·.flag? "last") = [some false, some true] := by decide

end Dictionary
end StubForge
