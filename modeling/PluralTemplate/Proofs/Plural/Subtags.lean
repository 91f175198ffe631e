import Mathlib.Data.List.Chain
import Mathlib.Data.List.Nodup
import Mathlib.Data.List.TakeWhile
import PluralTemplate.Proofs.Plural.Places
import PluralTemplate.Proofs.Text.LetterCase
import PluralTemplate.Proofs.Text.Reader
import PluralTemplate.Selection

/-!
# Locales are known by their language subtags

The subtag of a locale is what stands in front of its first hyphen or underscore, or the whole
locale if there is none (`hasSubtag_iff`). It names a language if the two are equal but for the case
of ASCII letters. No two languages have one name in this sense (`language_unique`), so a locale has
the rules of the language that its subtag names, or none, and nothing else of it counts
(`standard_reads_subtag`).
-/

set_option autoImplicit false

namespace PluralTemplate

namespace Locale

/-- The locale is the subtag, or goes on behind it with a hyphen or an underscore. Neither of them
is in the subtag. -/
def HasSubtag (locale subtag : String) : Prop :=
  (∀ c ∈ subtag.toList, c ≠ '-' ∧ c ≠ '_') ∧
    ∃ rest, locale.toList = subtag.toList ++ rest ∧
      (rest = [] ∨ rest.head? = some '-' ∨ rest.head? = some '_')

/-- The subtag of a locale is a language, in whatever letter case. -/
def Names (locale language : String) : Prop :=
  ∃ subtag, HasSubtag locale subtag ∧ Text.SameButCase subtag.toList language.toList

variable {locale other subtag language : String}

theorem primarySubtag_of_hasSubtag (has : HasSubtag locale subtag) :
    primarySubtag locale = subtag := by
  obtain ⟨within, rest, whole, ends⟩ := has
  have inside : ∀ c ∈ subtag.toList, (c != '-' && c != '_') = true := by
    intro c member
    simp [within c member]
  have outside : StartsOutside (fun c => c != '-' && c != '_') rest := by
    rcases ends with rfl | hyphen | underscore
    · exact startsOutside_nil _
    · intro c head
      obtain rfl : '-' = c := Option.some.inj (hyphen.symm.trans head)
      rfl
    · intro c head
      obtain rfl : '_' = c := Option.some.inj (underscore.symm.trans head)
      rfl
  rw [primarySubtag, whole, takeWhile_run inside outside, String.ofList_toList]

theorem hasSubtag_primarySubtag (locale : String) : HasSubtag locale (primarySubtag locale) := by
  rw [HasSubtag, primarySubtag, String.toList_ofList]
  refine ⟨fun c member => ?_, _, List.takeWhile_append_dropWhile.symm, ?_⟩
  · simpa using List.mem_takeWhile_imp member
  · have outside := startsOutside_dropWhile (fun c => c != '-' && c != '_') locale.toList
    cases rest : locale.toList.dropWhile fun c => c != '-' && c != '_' with
    | nil => exact .inl rfl
    | cons c tail =>
      rw [rest] at outside
      have separator := outside c rfl
      rw [Bool.and_eq_false_iff, bne_eq_false_iff_eq, bne_eq_false_iff_eq] at separator
      exact .inr (separator.imp (congrArg some) (congrArg some))

/-- A locale has one subtag. -/
theorem hasSubtag_iff : HasSubtag locale subtag ↔ primarySubtag locale = subtag := by
  refine ⟨primarySubtag_of_hasSubtag, ?_⟩
  rintro rfl
  exact hasSubtag_primarySubtag locale

theorem sameLetters_iff {a b : String} :
    sameLetters a b = true ↔ Text.SameButCase a.toList b.toList := by
  rw [sameLetters, beq_iff_eq, Text.map_toLower_eq_iff]

theorem sameLetters_primarySubtag_iff :
    sameLetters language (primarySubtag locale) = true ↔ Names locale language := by
  rw [sameLetters_iff, Names]
  simp only [hasSubtag_iff, exists_eq_left']
  exact ⟨Text.SameButCase.symm, Text.SameButCase.symm⟩

/-- Locales with one subtag, but for letter case, name the same languages. -/
theorem Names.of_sameButCase {otherSubtag : String} (has : HasSubtag locale subtag)
    (otherHas : HasSubtag other otherSubtag)
    (same : Text.SameButCase subtag.toList otherSubtag.toList) (names : Names locale language) :
    Names other language := by
  obtain ⟨named, hasNamed, spelled⟩ := names
  obtain rfl := (primarySubtag_of_hasSubtag has).symm.trans (primarySubtag_of_hasSubtag hasNamed)
  exact ⟨otherSubtag, otherHas, same.symm.trans spelled⟩

end Locale

namespace Plural

/-- The languages are written in small letters. -/
theorem languages_lower :
    ∀ language ∈ languages, language.1.toList.map Char.toLower = language.1.toList := by
  decide +kernel

/-- The languages are in alphabetical order. -/
theorem languages_increasing :
    (languages.map fun language => language.1.toList).IsChain (· < ·) := by
  decide +kernel

theorem languages_nodup : (languages.map fun language => language.1.toList).Nodup := by
  refine (List.isChain_iff_pairwise.1 languages_increasing).imp ?_
  rintro name _ less rfl
  exact List.lt_irrefl name less

/-- No two languages are equal but for letter case. -/
theorem language_unique {a b : String × Rules} (first : a ∈ languages) (second : b ∈ languages)
    (same : Text.SameButCase a.1.toList b.1.toList) : a = b := by
  have lower := Text.map_toLower_eq_iff.2 same
  rw [languages_lower a first, languages_lower b second] at lower
  exact List.inj_on_of_nodup_map languages_nodup first second lower

end Plural

namespace Registry

open PluralTemplate.Locale (HasSubtag Names)

variable {locale other : String}

/-- The rules of a locale are those of the language that it names. -/
theorem rules?_eq_some_iff {rules : Plural.Rules} :
    rules? locale = some rules ↔
      ∃ language ∈ Plural.languages, Names locale language.1 ∧ language.2 = rules := by
  simp only [rules?, Option.map_eq_some_iff, ← Locale.sameLetters_primarySubtag_iff]
  constructor
  · rintro ⟨language, found, rules⟩
    have spelled := List.find?_some found
    exact ⟨language, List.mem_of_find?_eq_some found, spelled, rules⟩
  · rintro ⟨language, member, spelled, rules⟩
    cases found : Plural.languages.find? fun entry =>
        Locale.sameLetters entry.1 (Locale.primarySubtag locale) with
    | none => exact absurd spelled (List.find?_eq_none.1 found language member)
    | some first =>
      have firstSpelled := List.find?_some found
      have alike : Text.SameButCase first.1.toList language.1.toList :=
        (Locale.sameLetters_iff.1 firstSpelled).trans (Locale.sameLetters_iff.1 spelled).symm
      obtain rfl := Plural.language_unique (List.mem_of_find?_eq_some found) member alike
      exact ⟨first, rfl, rules⟩

/-- Of a locale, the subtag alone counts, and its letter case does not. -/
theorem rules?_congr {subtag otherSubtag : String} (has : HasSubtag locale subtag)
    (otherHas : HasSubtag other otherSubtag)
    (same : Text.SameButCase subtag.toList otherSubtag.toList) : rules? locale = rules? other := by
  have names : ∀ language, Names locale language ↔ Names other language := fun _ =>
    ⟨.of_sameButCase has otherHas same, .of_sameButCase otherHas has same.symm⟩
  apply Option.ext
  intro rules
  simp only [rules?_eq_some_iff, names]

theorem classifier_standard_of_rules? {rules : Plural.Rules} (found : rules? locale = some rules) :
    standard.classifier locale = .ok (.ofRules rules) := by
  simp only [standard, found]

theorem classifier_standard_of_none (unknown : rules? locale = none) :
    standard.classifier locale = .error (.notSupported locale) := by
  simp only [standard, unknown]

/-- The locale is known just when it names a supported language, and then has the rules of that
language; otherwise the error carries the locale as it is. Two locales whose subtags are equal but
for letter case are classified alike, if they are known, and select the same variants in any
case. -/
theorem standard_reads_subtag :
    (∀ locale, (∃ c, standard.classifier locale = .ok c) ↔
      ∃ language ∈ standard.supported, Names locale language) ∧
    (∀ locale, ∀ language ∈ Plural.languages, Names locale language.1 →
      standard.classifier locale = .ok (.ofRules language.2)) ∧
    (∀ locale, (∀ language ∈ standard.supported, ¬ Names locale language) →
      standard.classifier locale = .error (.notSupported locale)) ∧
    ∀ locale other subtag otherSubtag : String,
      HasSubtag locale subtag → HasSubtag other otherSubtag →
      Text.SameButCase subtag.toList otherSubtag.toList →
      (∀ c, standard.classifier locale = .ok c ↔ standard.classifier other = .ok c) ∧
      (∀ q, standard.categoryIndex locale q = standard.categoryIndex other q) ∧
      ∀ (set : VariantSet) (q : Quantity),
        set.select q locale standard = set.select q other standard := by
  have named : ∀ locale, ∀ language ∈ Plural.languages, Names locale language.1 →
      standard.classifier locale = .ok (.ofRules language.2) := fun locale language member names =>
    classifier_standard_of_rules? (rules?_eq_some_iff.2 ⟨language, member, names, rfl⟩)
  refine ⟨fun locale => ⟨?_, ?_⟩, named, fun locale unnamed => ?_, ?_⟩
  · rintro ⟨c, supported⟩
    obtain ⟨rules, found, -⟩ := exists_rules_of_classifier_standard supported
    obtain ⟨language, member, names, -⟩ := rules?_eq_some_iff.1 found
    exact ⟨language.1, List.mem_map_of_mem member, names⟩
  · rintro ⟨_, supported, names⟩
    obtain ⟨language, member, rfl⟩ := List.mem_map.1 supported
    exact ⟨_, named locale language member names⟩
  · cases found : rules? locale with
    | none => exact classifier_standard_of_none found
    | some rules =>
      obtain ⟨language, member, names, -⟩ := rules?_eq_some_iff.1 found
      exact absurd names (unnamed language.1 (List.mem_map_of_mem member))
  · intro locale other subtag otherSubtag has otherHas same
    have rules := rules?_congr has otherHas same
    have indices : ∀ q, standard.categoryIndex locale q = standard.categoryIndex other q := by
      intro q
      simp only [categoryIndex, standard, rules]
      cases rules? other <;> rfl
    refine ⟨fun c => ?_, indices, fun set q => ?_⟩
    · simp only [standard, rules]
      cases rules? other <;> simp
    · simp only [VariantSet.select, VariantSet.choose, indices]

/-- `PT` and a Portuguese locale of Brazil are classified alike. The Kelvin sign does not stand for
the first letter of Korean. -/
theorem standard_reads_subtag_mixed_case :
    HasSubtag "pt_BR" "pt" ∧ HasSubtag "PT-" "PT" ∧
    standard.classifier "pt_BR" = .ok (.ofRules .wholeZeroOrOneAndMillions) ∧
    (∀ q, standard.categoryIndex "pt_BR" q = standard.categoryIndex "PT-" q) ∧
    standard.classifier "\u212ao" = .error (.notSupported "\u212ao") := by
  obtain ⟨-, named, unnamed, alike⟩ := standard_reads_subtag
  have small : HasSubtag "pt_BR" "pt" := Locale.hasSubtag_iff.2 (by decide +kernel)
  have capital : HasSubtag "PT-" "PT" := Locale.hasSubtag_iff.2 (by decide +kernel)
  have same : Text.SameButCase "pt".toList "PT".toList :=
    Text.map_toLower_eq_iff.1 (by decide +kernel)
  have member : ("pt", .wholeZeroOrOneAndMillions) ∈ Plural.languages := by decide +kernel
  have portuguese : Names "pt_BR" "pt" :=
    Locale.sameLetters_primarySubtag_iff.1 (by decide +kernel)
  have others : ∀ language ∈ standard.supported,
      Locale.sameLetters language (Locale.primarySubtag "\u212ao") = false := by
    decide +kernel
  refine ⟨small, capital, named "pt_BR" _ member portuguese,
    (alike "pt_BR" "PT-" "pt" "PT" small capital same).2.1, unnamed _ fun language known names => ?_⟩
  have spelled := Locale.sameLetters_primarySubtag_iff.2 names
  rw [others language known] at spelled
  cases spelled

end Registry

end PluralTemplate
