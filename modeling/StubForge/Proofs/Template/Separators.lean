import StubForge.Proofs.Template.Marks
import StubForge.Proofs.Template.Parts

/-! Sections over a list whose body ends in a separator: it stands between two items and not after
the last of them, whatever entries the items and the scopes around them have. -/
namespace StubForge
namespace Dictionary

/-! ## Marked items -/

theorem getElem?_mark (first : Bool) (items : List Dictionary) (i : Nat) :
    (mark first items)[i]? = items[i]?.map fun d =>
      (d.insert "first" (.flag (first && i == 0))).insert "last"
        (.flag (i + 1 == items.length)) := by
  induction items generalizing first i with
  | nil => rfl
  | cons d r ih =>
    cases i with
    | zero => cases r <;> cases first <;> rfl
    | succ i =>
      rw [mark, List.getElem?_cons_succ, ih, List.getElem?_cons_succ]
      cases first <;> simp

/-- The marks say at which place an item is, whatever the item says itself. -/
theorem getElem?_markEnds (items : List Dictionary) (i : Nat) :
    (markEnds items)[i]? = items[i]?.map fun d =>
      (d.insert "first" (.flag (i == 0))).insert "last" (.flag (i + 1 == items.length)) := by
  rw [markEnds, getElem?_mark]
  simp only [Bool.true_and]

theorem exists_last_of_mem_markEnds {items : List Dictionary} {d : Dictionary}
    (h : d ∈ markEnds items) : ∃ last, d.flag? "last" = some last := by
  obtain ⟨i, hi⟩ := List.mem_iff_getElem?.1 h
  rw [getElem?_markEnds] at hi
  obtain ⟨e, -, rfl⟩ := Option.map_eq_some_iff.1 hi
  exact ⟨i + 1 == items.length, by simp [flag?_eq_some]⟩

/-- What `item` makes of each dictionary, and between two of them what `between` makes of the
first. -/
def separated {α : Type} (item between : Dictionary → α) : List Dictionary → List α
  | [] => []
  | [d] => [item d]
  | d :: e :: r => item d :: between d :: separated item between (e :: r)

/-- What `item` makes of a dictionary, and what `between` makes of it if it is not the last. -/
def followed {α : Type} (item between : Dictionary → α) (d : Dictionary) : List α :=
  item d :: if d.flag? "last" = some true then [] else [between d]

theorem flatMap_mark {α : Type} (item between : Dictionary → α) (first : Bool)
    (items : List Dictionary) : (mark first items).flatMap (followed item between) =
      separated item between (mark first items) := by
  induction items generalizing first with
  | nil => rfl
  | cons d r ih =>
    have hlast : ((d.insert "first" (.flag first)).insert "last" (.flag r.isEmpty)).flag? "last" =
        some r.isEmpty := by simp [flag?_eq_some]
    rw [mark, List.flatMap_cons, ih, followed, hlast]
    cases r with
    | nil => rfl
    | cons e r => rfl

end Dictionary

/-! ## Sections -/

namespace Template
open Dictionary

section
variable (insert : String → Renderer) (template : String) (scopes : List Dictionary)

/-- Nodes in the scope of an item, inside the scopes of the section. -/
def renderItem (nodes : List Node) (d : Dictionary) : Except RenderFault String :=
  renderNodes insert template (d :: scopes) nodes

variable {insert template scopes}

/-- The mark of the item decides about its separator. -/
theorem renderItem_separator {d : Dictionary} {last : Bool} (h : d.flag? "last" = some last)
    (body separator : List Node) :
    renderItem insert template scopes (body ++ [.unless "last" separator]) d =
      concat (followed (renderItem insert template scopes body)
        (renderItem insert template scopes separator) d) := by
  have hresolve := resolve_of_get? (flag?_eq_some.1 h) scopes
  rw [renderItem, renderNodes_append, renderNodes_singleton, renderNode_unless_flag hresolve,
    followed, h]
  cases last with
  | false => rfl
  | true =>
    cases hbody : renderNodes insert template (d :: scopes) body <;>
      simp [renderItem, hbody, concat, bind, Except.bind]

/-- A section with a separator is its items and its separators in their order. -/
theorem renderNode_separated {key : String} {items : List Dictionary}
    (h : resolve scopes key = some (.list (markEnds items))) (body separator : List Node) :
    renderNode insert template scopes (.when key (body ++ [.unless "last" separator])) =
      concat (separated (renderItem insert template scopes body)
        (renderItem insert template scopes separator) (markEnds items)) := by
  -- each item is rendered as one or two parts; put together they are the parts of the section
  let parts := followed (renderItem insert template scopes body)
    (renderItem insert template scopes separator)
  have hitems : ∀ d ∈ markEnds items,
      renderItem insert template scopes (body ++ [.unless "last" separator]) d =
        concat (parts d) := by
    intro d hd
    obtain ⟨last, hlast⟩ := exists_last_of_mem_markEnds hd
    exact renderItem_separator hlast body separator
  calc renderNode insert template scopes (.when key (body ++ [.unless "last" separator]))
      = concat ((markEnds items).map
          (renderItem insert template scopes (body ++ [.unless "last" separator]))) := by
        simp only [renderNode, h, repetitions, List.map_map]
        rfl
    _ = concat (((markEnds items).map parts).map concat) := by
        rw [List.map_congr_left hitems, List.map_map]
        rfl
    _ = concat ((markEnds items).flatMap parts) := (concat_flatten _).symm
    _ = concat (separated (renderItem insert template scopes body)
          (renderItem insert template scopes separator) (markEnds items)) :=
        congrArg concat (flatMap_mark _ _ true items)

end

/-- A section over a marked list whose body ends in a separator: the body in the scope of an item,
the separator in the same scope, and so on up to the last item, which no separator follows. If one
of them fails the section does, with the fault of the first that does. Whatever the items and the
scopes around them have as `first` and `last`, the marks are those of the places in the list. -/
theorem separators_between (set : TemplateSet) (depth : Nat) (template : String)
    (scopes items : List Dictionary) (key : String) (body separator : List Node)
    (h : resolve scopes key = some (.list (markEnds items))) :
    let render := renderItem (set.renderWithin depth) template scopes
    let parts := separated (render body) (render separator) (markEnds items)
    let result := renderNode (set.renderWithin depth) template scopes
      (.when key (body ++ [.unless "last" separator]))
    (∀ text, result = .ok text ↔
      ∃ texts : List String, parts = texts.map .ok ∧ text = String.join texts) ∧
    (∀ fault, result = .error fault ↔
      ∃ (texts : List String) (after : List (Except RenderFault String)),
        parts = texts.map .ok ++ .error fault :: after) ∧
    ∀ i : Nat, (markEnds items)[i]? = items[i]?.map fun d =>
      (d.insert "first" (.flag (i == 0))).insert "last" (.flag (i + 1 == items.length)) := by
  intro render parts result
  have hresult : result = concat parts := renderNode_separated h body separator
  refine ⟨fun text => ?_, fun fault => ?_, getElem?_markEnds items⟩
  · rw [hresult, concat_eq_ok]
    refine exists_congr fun texts => and_congr_left' ?_
    rw [← List.forall₂_eq_eq_eq, List.forall₂_map_right_iff]
  · rw [hresult, concat_eq_error]

/-- Two items that both say that they are the last, inside a scope that says so, too. -/
theorem separators_between_two :
    let set : TemplateSet := ⟨"Demo", []⟩
    let items : List Dictionary := [[("name", .code "a"), ("last", .flag true)],
      [("last", .flag true), ("name", .code "b")]]
    let scopes : List Dictionary := [[("gap", .code " "), ("last", .flag true),
      ("args", .list (markEnds items))]]
    renderNode (set.renderWithin 1) "call" scopes
      (.when "args" ([.value "name"] ++ [.unless "last" [.text ",", .value "gap"]])) =
        .ok "a, b" := by
  intro set items scopes
  obtain ⟨hok, -, -⟩ := separators_between set 1 "call" scopes items "args" [.value "name"]
    [.text ",", .value "gap"] rfl
  exact (hok "a, b").2 ⟨["a", ", ", "b"], rfl, rfl⟩

end Template
end StubForge
