import PluralTemplate.Proofs.Quantity.RedundantZeros

/-!
# What parts list

An explicit part keeps the canonical text of each of its literals, in their order. Here its values
are traced back to the literals of the rule that the text begins with
(`ofText_eq_explicit_iff_heads`), and what is said of values is said of literals (`mem_values_iff`,
`two_le_count_values_iff`).
-/

set_option autoImplicit false

namespace PluralTemplate

namespace Part

/-- The canonical texts that a part lists, one for each of its literals. -/
def values : Part → List String
  | explicit values _ => values
  | interval _ _ => []
  | plain _ => []

theorem lists_iff {part : Part} {value : String} :
    part.lists value = true ↔ value ∈ part.values := by
  cases part <;> simp [lists, values]

theorem not_lists_iff {part : Part} {value : String} :
    part.lists value = false ↔ value ∉ part.values := by
  rw [← lists_iff, Bool.not_eq_true]

end Part

namespace Grammar

/-- The literals of a list, in order. -/
def ListRule.literals (r : ListRule) : List Literal := r.first :: r.more.map Following.literal

/-- The text consists of the list, blanks and the template. -/
def ListRule.Heads (r : ListRule) (text template : String) : Prop :=
  ∃ (gap : Blanks) (tail : Tail),
    r.chars ++ gap.chars ++ tail.chars = text.toList ∧ String.ofList tail.chars = template

/-- The text begins with a list, and a literal in it has the canonical text. -/
def Lists (text value : String) : Prop :=
  ∃ (r : ListRule) (template : String), r.Heads text template ∧
    value ∈ r.literals.map Literal.canonical

/-- The text begins with a list, and two literals in it have the canonical text. -/
def ListsTwice (text value : String) : Prop :=
  ∃ (r : ListRule) (template : String), r.Heads text template ∧
    2 ≤ (r.literals.map Literal.canonical).count value

theorem ListsTwice.lists {text value : String} (twice : ListsTwice text value) :
    Lists text value := by
  obtain ⟨r, template, heads, count⟩ := twice
  exact ⟨r, template, heads, List.count_pos_iff.1 (by omega)⟩

/-- A part is explicit if its text begins with a list, and it has a value for each literal. -/
theorem ofText_eq_explicit_iff_heads {text : String} {values : List String} {template : String} :
    Part.ofText text = .explicit values template ↔
      ∃ r : ListRule, r.Heads text template ∧ r.literals.map Literal.canonical = values := by
  rw [ofText_eq_explicit_iff]
  constructor
  · rintro ⟨r, gap, tail, spelled, listed, behind⟩
    exact ⟨r, ⟨gap, tail, spelled, behind⟩, listed⟩
  · rintro ⟨r, ⟨gap, tail, spelled, behind⟩, listed⟩
    exact ⟨r, gap, tail, spelled, listed, behind⟩

theorem ListRule.Heads.ofText_eq {r : ListRule} {text template : String}
    (heads : r.Heads text template) :
    Part.ofText text = .explicit (r.literals.map Literal.canonical) template :=
  ofText_eq_explicit_iff_heads.2 ⟨r, heads, rfl⟩

/-- A part has values if its text begins with a list, whose literals they come from. -/
theorem exists_heads_of_mem_values {text value : String}
    (listed : value ∈ (Part.ofText text).values) :
    ∃ (r : ListRule) (template : String), r.Heads text template := by
  cases parsed : Part.ofText text with
  | explicit values template =>
    obtain ⟨r, heads, -⟩ := ofText_eq_explicit_iff_heads.1 parsed
    exact ⟨r, template, heads⟩
  | interval rule template => simp [parsed, Part.values] at listed
  | plain template => simp [parsed, Part.values] at listed

theorem mem_values_iff {text value : String} :
    value ∈ (Part.ofText text).values ↔ Lists text value := by
  constructor
  · intro listed
    obtain ⟨r, template, heads⟩ := exists_heads_of_mem_values listed
    rw [heads.ofText_eq] at listed
    exact ⟨r, template, heads, listed⟩
  · rintro ⟨r, template, heads, listed⟩
    rw [heads.ofText_eq]
    exact listed

theorem two_le_count_values_iff {text value : String} :
    2 ≤ (Part.ofText text).values.count value ↔ ListsTwice text value := by
  constructor
  · intro twice
    obtain ⟨r, template, heads⟩ :=
      exists_heads_of_mem_values (List.count_pos_iff.1 (Nat.lt_of_lt_of_le Nat.zero_lt_two twice))
    rw [heads.ofText_eq] at twice
    exact ⟨r, template, heads, twice⟩
  · rintro ⟨r, template, heads, twice⟩
    rw [heads.ofText_eq]
    exact twice

end Grammar

end PluralTemplate
