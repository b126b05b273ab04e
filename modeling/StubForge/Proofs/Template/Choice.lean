import StubForge.Proofs.Template.Parts

/-! Templates that offer a choice: sections under keys of which one holds. -/
namespace StubForge.Template

section
variable {insert : String → Renderer} {template : String} {scopes : List Dictionary}

theorem renderNode_when_of_not_holds {key : String} (h : holds (resolve scopes key) = false)
    (children : List Node) : renderNode insert template scopes (.when key children) = .ok "" := by
  have hnone : repetitions scopes (resolve scopes key) = [] := by
    cases he : resolve scopes key with
    | none => rfl
    | some e =>
      rw [he] at h
      cases e with
      | code text => simp [repetitions, h]
      | flag value => simp [repetitions, h]
      | dict d => cases h
      | list items =>
        have hnil : items = [] := by simpa [holds] using h
        simp [repetitions, hnil]
  rw [renderNode, hnone]
  rfl

/-- The section under a text that is not empty is rendered once, in the scopes around it. -/
theorem renderNode_when_code {key text : String} (h : resolve scopes key = some (.code text))
    (hne : text ≠ "") (children : List Node) :
    renderNode insert template scopes (.when key children) =
      renderNodes insert template scopes children := by
  have honce : repetitions scopes (resolve scopes key) = [scopes] := by
    simp [h, repetitions, holds, hne]
  rw [renderNode, honce]
  exact concat_singleton _

/-- Of sections in a row only that of the chosen key is rendered. -/
theorem renderNodes_chosen {chosen : String} {sections : List (String × List Node)}
    (hnodup : (sections.map (·.1)).Nodup)
    (hothers : ∀ s ∈ sections, s.1 ≠ chosen → holds (resolve scopes s.1) = false)
    {children : List Node} (hmem : (chosen, children) ∈ sections) :
    renderNodes insert template scopes (sections.map fun s => .when s.1 s.2) =
      renderNode insert template scopes (.when chosen children) := by
  have hskipped {rest : List (String × List Node)}
      (h : ∀ s ∈ rest, holds (resolve scopes s.1) = false) :
      renderNodes insert template scopes (rest.map fun s => .when s.1 s.2) = .ok "" := by
    induction rest with
    | nil => rfl
    | cons s rest ih =>
      rw [List.forall_mem_cons] at h
      rw [List.map_cons, renderNodes, renderNode_when_of_not_holds h.1, ih h.2]
      rfl
  induction sections with
  | nil => cases hmem
  | cons s sections ih =>
    rw [List.map_cons, List.nodup_cons] at hnodup
    rw [List.forall_mem_cons] at hothers
    rcases List.mem_cons.1 hmem with rfl | hmem
    · have hrest : ∀ s ∈ sections, holds (resolve scopes s.1) = false := by
        intro s hs
        refine hothers.2 s hs fun heq => hnodup.1 ?_
        exact List.mem_map.2 ⟨s, hs, heq⟩
      rw [List.map_cons, renderNodes, hskipped hrest]
      cases renderNode insert template scopes (.when chosen children) <;>
        simp [bind, Except.bind]
    · have hne : s.1 ≠ chosen := by
        intro heq
        exact hnodup.1 (List.mem_map.2 ⟨_, hmem, heq.symm⟩)
      rw [List.map_cons, renderNodes, renderNode_when_of_not_holds (hothers.1 hne),
        ih hnodup.2 hothers.2 hmem]
      cases renderNode insert template scopes (.when chosen children) <;>
        simp [bind, Except.bind]

end

/-- The template `name` consists of one section for each of the keys. In these scopes the chosen key
is the only one that holds, and its section is all that is rendered: `text`. -/
structure TemplateSet.Chooses (set : TemplateSet) (name : String) (keys : List String)
    (scopes : List Dictionary) (chosen text : String) : Prop where
  sections : ∃ sections : List (String × List Node), sections.map (·.1) = keys ∧
    set.find? name = some (sections.map fun s => .when s.1 s.2)
  only : ∀ key ∈ keys, holds (resolve scopes key) = true ↔ key = chosen
  mem : chosen ∈ keys
  rendered : ∀ limit source, set.renderWithin (limit + 1) source name scopes = .ok text

end StubForge.Template
