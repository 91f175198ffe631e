import PluralTemplate.Selection

/-!
# Every category has a place

Plain variants are matched to categories by place, and a category that is not among those of its
locale would silently take the first place. Under plural rules this does not happen. Whatever
the rules are, their categories are listed in the customary order, each once, with `other` at
the end, and a quantity is given the category of one of the rules, or `other`.

The standard registry classifies by such rules for every locale it knows, so there the place of
a category is one where it stands (`standard_places_category`).
-/

set_option autoImplicit false

namespace PluralTemplate

namespace Plural

theorem Category.all_increasing : Category.all.Pairwise fun a b => a.place < b.place := by decide

theorem Category.mem_all (c : Category) : c ∈ Category.all := by
  cases c <;> decide

namespace Rules

theorem mem_categories {rules : Rules} {c : Category} :
    c ∈ rules.categories ↔ c ∈ rules.map Prod.fst ∨ c = .other := by
  simp [categories, Category.mem_all]

theorem categories_increasing (rules : Rules) :
    rules.categories.Pairwise fun a b => a.place < b.place :=
  Category.all_increasing.filter _

/-- No category is listed twice. -/
theorem categories_nodup (rules : Rules) : rules.categories.Nodup :=
  rules.categories_increasing.imp fun less same => Nat.ne_of_lt less (congrArg Category.place same)

theorem getLast?_categories (rules : Rules) : rules.categories.getLast? = some .other := by
  have last : Category.all = [.zero, .one, .two, .few, .many] ++ [.other] := rfl
  have kept : [Category.other].filter (fun c => c ∈ rules.map Prod.fst ++ [.other]) = [.other] := by
    simp
  rw [categories, last, List.filter_append, kept, List.getLast?_concat]

/-- The category of a number is that of the rule which applies, or `other`. -/
theorem category_mem_categories (rules : Rules) (o : Operands) :
    rules.category o ∈ rules.categories := by
  rw [mem_categories, category]
  cases found : rules.find? fun rule => Condition.holds rule.2 o with
  | none => exact .inr rfl
  | some rule => exact .inl (List.mem_map_of_mem (List.mem_of_find?_eq_some found))

theorem detect_mem_categories (rules : Rules) (q : Quantity) :
    rules.detect q ∈ rules.categories := by
  unfold detect
  split
  · exact rules.category_mem_categories _
  · exact mem_categories.2 (.inr rfl)

end Rules

end Plural

/-- The place of a category is found where the category is listed. -/
theorem Classifier.findIdx?_eq_index {c : Classifier} {q : Quantity}
    (listed : c.detect q ∈ c.categories) :
    c.categories.findIdx? (· == c.detect q) = some (c.index q) := by
  have found : (c.categories.findIdx? (· == c.detect q)).isSome := by
    rw [List.findIdx?_isSome, List.any_eq_true]
    exact ⟨c.detect q, listed, beq_self_eq_true _⟩
  obtain ⟨place, here⟩ := Option.isSome_iff_exists.1 found
  rw [index, here, Option.getD_some]

/-- The category of a quantity stands at its place. -/
theorem Classifier.getElem?_index {c : Classifier} {q : Quantity}
    (listed : c.detect q ∈ c.categories) :
    c.categories[c.index q]? = some (c.detect q) := by
  obtain ⟨within, same, -⟩ := List.findIdx?_eq_some_iff_getElem.1 (findIdx?_eq_index listed)
  rw [List.getElem?_eq_getElem within, eq_of_beq same]

namespace Registry

/-- The standard registry classifies by the rules of a language. -/
theorem exists_rules_of_classifier_standard {locale : String} {c : Classifier}
    (supported : standard.classifier locale = .ok c) :
    ∃ rules, rules? locale = some rules ∧ c = .ofRules rules := by
  simp only [standard] at supported
  split at supported
  · rename_i rules found
    exact ⟨rules, found, (Except.ok.inj supported).symm⟩
  · cases supported

theorem categoryIndex_of_classifier {registry : Registry} {locale : String} {c : Classifier}
    (supported : registry.classifier locale = .ok c) (q : Quantity) :
    registry.categoryIndex locale q = c.index q := by
  rw [categoryIndex, supported]

/-- In a locale that the standard registry knows, the categories are listed in the customary
order, each once and `other` last, and every quantity has one of them, which stands at the place
that selection uses: the place is found there, not fallen back to. -/
theorem standard_places_category {locale : String} {c : Classifier}
    (supported : standard.classifier locale = .ok c) (q : Quantity) :
    c.categories.Pairwise (fun a b => a.place < b.place) ∧
    c.categories.getLast? = some .other ∧
    c.detect q ∈ c.categories ∧
    c.categories[standard.categoryIndex locale q]? = some (c.detect q) ∧
    c.categories.findIdx? (· == c.detect q) = some (standard.categoryIndex locale q) := by
  obtain ⟨rules, -, rfl⟩ := exists_rules_of_classifier_standard supported
  have listed : (Classifier.ofRules rules).detect q ∈ (Classifier.ofRules rules).categories :=
    rules.detect_mem_categories q
  rw [categoryIndex_of_classifier supported]
  exact ⟨rules.categories_increasing, rules.getLast?_categories, listed,
    Classifier.getElem?_index listed, Classifier.findIdx?_eq_index listed⟩

/-- Hundred and eleven is `many` in Arabic, the fifth of its six categories. -/
theorem standard_places_category_arabic :
    standard.classifier "ar_EG" = .ok (.ofRules .arabic) ∧
    (Classifier.ofRules .arabic).categories[standard.categoryIndex "ar_EG" (.integer 111)]? =
      some .many := by
  have found : rules? "ar_EG" = some .arabic := by decide +kernel
  have supported : standard.classifier "ar_EG" = .ok (.ofRules .arabic) := by
    simp only [standard, found]
  have detected : (Classifier.ofRules .arabic).detect (.integer 111) = .many := by decide +kernel
  have placed := (standard_places_category supported (.integer 111)).2.2.2.1
  rw [detected] at placed
  exact ⟨supported, placed⟩

end Registry

end PluralTemplate
