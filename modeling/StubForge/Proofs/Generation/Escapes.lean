import StubForge.Proofs.Generation.Declarations
import StubForge.Proofs.Text.Camel

/-! Keywords among cased names. Escaping could give a keyword the text of another name, but no casing
makes a name that reads like an escaped keyword. -/
namespace StubForge

theorem Identifier.exists_of_recase_eq_simple {casing : List Char → List Char} {id : Identifier}
    {name : String} (h : id.recase casing = .simple name) : ∃ text, name.toList = casing text := by
  cases id with
  | simple declared =>
    refine ⟨declared.toList, ?_⟩
    rw [← Identifier.simple.inj h, String.toList_ofList]
  | qualified segments => cases h

namespace Dialect

/-- The casings of fields, functions, types and members of an enum. -/
def casings (d : Dialect) : List (Identifier → Identifier) :=
  [d.fieldCase, d.functionCase, d.typeCase, d.memberCase]

/-- A plain name that one of the casings makes. -/
def Cased (d : Dialect) (name : String) : Prop :=
  ∃ casing ∈ d.casings, ∃ declared, casing declared = .simple name

/-! ## Escapes -/

theorem escape_inj {d : Dialect} {a b : String} (h : d.escape a = d.escape b) : a = b := by
  cases d with
  | scala => exact String.append_right_inj _ |>.1 ((String.append_left_inj _).1 h)
  | java => exact (String.append_left_inj _).1 h

/-- A name that no keyword is escaped to. -/
def Unescaped (d : Dialect) (name : String) : Prop := ∀ k ∈ d.keywords, d.escape k ≠ name

theorem mem_keywords_of_isKeyword {d : Dialect} {name : String} (h : d.isKeyword name = true) :
    name ∈ d.keywords := by rwa [isKeyword, List.contains_iff_mem] at h

theorem quoteKeyword_inj {d : Dialect} {a b : String} (ha : d.Unescaped a) (hb : d.Unescaped b)
    (h : d.quoteKeyword a = d.quoteKeyword b) : a = b := by
  rw [quoteKeyword, quoteKeyword] at h
  split at h
  · rename_i hakey
    split at h
    · exact escape_inj h
    · exact absurd h (hb a (mem_keywords_of_isKeyword hakey))
  · split at h
    · rename_i hbkey
      exact absurd h.symm (ha b (mem_keywords_of_isKeyword hbkey))
    · exact h

/-! ## Cased names -/

/-- A keyword with an underscore behind it has its first underscore there, after a small letter. That
rules out each of the casings. -/
theorem unescaped_of_cased_java {name : String} (h : java.Cased name) : java.Unescaped name := by
  obtain ⟨casing, hmem, declared, hname⟩ := h
  intro k hk hescape
  obtain ⟨c, rest, hkeyword, hc⟩ := exists_head_of_keyword hk
  have htext : name.toList = c :: (rest ++ ['_']) := by
    rw [← hescape, escape, String.toList_append, hkeyword]
    rfl
  have hcamel : Identifier.camel declared ≠ .simple name := by
    intro hname
    obtain ⟨text, hcase⟩ := Identifier.exists_of_recase_eq_simple hname
    rw [hcase] at htext
    have hne : c ≠ '_' := by
      rintro rfl
      cases hc
    apply Text.underscore_notMem_camelCase htext hne
    simp [htext]
  have htitle : Identifier.title declared ≠ .simple name := by
    intro hname
    obtain ⟨text, hcase⟩ := Identifier.exists_of_recase_eq_simple hname
    rw [Text.isLower_of_titleCase (hcase ▸ htext)] at hc
    cases hc
  have hupper : Identifier.upper declared ≠ .simple name := by
    intro hname
    obtain ⟨text, hcase⟩ := Identifier.exists_of_recase_eq_simple hname
    have hmem : c ∈ Text.shoutCase text := by simp [← hcase, htext]
    rw [Text.isLower_of_mem_shoutCase hmem] at hc
    cases hc
  simp only [casings, List.mem_cons, List.not_mem_nil, or_false] at hmem
  rcases hmem with rfl | rfl | rfl | rfl
  · exact hcamel hname
  · exact hcamel hname
  · exact htitle hname
  · exact hupper hname

theorem unescaped_scala {name : String} (h : '`' ∉ name.toList) : scala.Unescaped name := by
  rintro k - rfl
  simp [escape] at h

theorem Cased.unescaped {d : Dialect} {name : String} (h : d.Cased name) (htick : '`' ∉ name.toList) :
    d.Unescaped name := by
  cases d with
  | scala => exact unescaped_scala htick
  | java => exact unescaped_of_cased_java h

end Dialect

/-- However two plain names are cased, they stay apart when keywords are escaped. -/
theorem Naming.identifier_ne_of_cased {n : Naming} {a b : String} (ha : n.dialect.Cased a)
    (hb : n.dialect.Cased b) (htick : '`' ∉ a.toList ∧ '`' ∉ b.toList) (hne : a ≠ b) :
    n.identifier (.simple a) ≠ n.identifier (.simple b) := by
  intro h
  simp only [identifier, Identifier.segments_simple, List.map_singleton,
    String.intercalate_singleton] at h
  exact hne (Dialect.quoteKeyword_inj (ha.unescaped htick.1) (hb.unescaped htick.2) h)

/-- A field whose name is a keyword, and one whose name has an underscore before it. -/
theorem Naming.identifier_ne_of_cased_keyword :
    let n : Naming := ⟨.java, []⟩
    n.identifier (.simple "class") = "class_" ∧ n.identifier (.simple "_class") = "_class" ∧
      n.identifier (.simple "class") ≠ n.identifier (.simple "_class") := by
  intro n
  have hcased (name : String) (h : (Identifier.simple name).camel = .simple name) :
      n.dialect.Cased name := ⟨_, List.mem_cons_self, .simple name, h⟩
  have hkeyword : n.dialect.Cased "class" := hcased _ (by decide +kernel)
  have hlead : n.dialect.Cased "_class" := hcased _ (by decide +kernel)
  refine ⟨by decide, by decide, ?_⟩
  exact identifier_ne_of_cased hkeyword hlead (by decide) (by decide)

/-! A name that is not cased, such as that of a constant, can read like an escaped keyword. -/
example : (⟨.java, []⟩ : Naming).identifier (.simple "class") =
    (⟨.java, []⟩ : Naming).identifier (.simple "class_") := by decide

end StubForge
