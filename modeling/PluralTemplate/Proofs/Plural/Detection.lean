import Mathlib.Data.List.Find
import Mathlib.Data.List.TakeWhile
import PluralTemplate.Proofs.Decimal.ReadBack
import PluralTemplate.Selection

/-!
# Categories are read off the canonical text

An exact integer gives its operands as a number, and any other quantity as a text of which
eighteen digits are kept. The two agree on the category of a whole number all the same: every
rule of every language compares with short numbers only and divides by divisors of `10 ^ 18`
only (`languages_short`), and such a rule cannot tell a long number from what is kept of it
(`Relation.holds_keptWhole`). So the category of a quantity is that of its canonical text
(`Rules.detect_eq_ofText`).
-/

set_option autoImplicit false

namespace PluralTemplate

theorem Quantity.isFinite_value_integer (n : Int64) : (integer n).value.isFinite = true := by
  have word : n.toInt.natAbs ≤ 2 ^ 128 * 1 := by
    have lower := n.le_toInt
    have upper := n.toInt_lt
    omega
  exact Magnitude.isFinite_nearest Nat.one_pos word

namespace Plural

/-! ## Operands of whole numbers -/

namespace Operands

/-- What is kept of a whole number: its last digits, with a mark above them if it has more. -/
def keptWhole (n : Nat) : Nat :=
  if n < 10 ^ keptDigits then n else n % 10 ^ keptDigits + 10 ^ keptDigits

/-- The last digits of a number spell its remainder. -/
theorem value_drop_digits {n kept : Nat} (long : kept ≤ (Decimal.digits n).length) :
    Numeral.value ((Decimal.digits n).drop ((Decimal.digits n).length - kept)) = n % 10 ^ kept := by
  generalize cut : (Decimal.digits n).length - kept = excess
  have length : ((Decimal.digits n).drop excess).length = kept := by
    rw [List.length_drop]
    omega
  have fits : Numeral.value ((Decimal.digits n).drop excess) < 10 ^ kept := by
    rw [← length]
    exact Numeral.value_lt_pow_length fun c member =>
      Decimal.isDigit_of_mem_digits (List.mem_of_mem_drop member)
  have parts : 10 ^ kept * Numeral.value ((Decimal.digits n).take excess) +
      Numeral.value ((Decimal.digits n).drop excess) = n := by
    rw [← length, ← Numeral.value_append, List.take_append_drop, Decimal.value_digits]
  calc Numeral.value ((Decimal.digits n).drop excess)
      = Numeral.value ((Decimal.digits n).drop excess) % 10 ^ kept := (Nat.mod_eq_of_lt fits).symm
    _ = n % 10 ^ kept := by rw [← Nat.mul_add_mod, parts]

theorem ofDigits_whole (n : Nat) : ofDigits (Decimal.digits n) [] = ofWhole (keptWhole n) := by
  have positive : 0 < keptDigits := by decide
  have length : (Decimal.digits n).length ≤ keptDigits ↔ n < 10 ^ keptDigits :=
    Decimal.length_digits_le_iff positive
  rw [ofDigits, ofWhole, keptWhole, Operands.mk.injEq]
  refine ⟨?_, rfl, rfl, rfl, rfl⟩
  by_cases short : n < 10 ^ keptDigits
  · rw [Nat.sub_eq_zero_of_le (length.2 short), if_pos rfl, if_pos short, List.drop_zero,
      Nat.add_zero, Decimal.value_digits]
  · have long : keptDigits < (Decimal.digits n).length := Nat.lt_of_not_le (mt length.1 short)
    rw [if_neg short, if_neg (Nat.sub_ne_zero_of_lt long), Nat.pow_eq,
      value_drop_digits (Nat.le_of_lt long)]

/-- Operands take no notice of a sign, and nothing stands behind the digits of an integer. -/
theorem ofText_integerChars (n : Int) :
    ofText (Quantity.integerChars n) = ofWhole (keptWhole n.natAbs) := by
  have apart : ∀ d : Char, d.isDigit = false → ∀ c ∈ Decimal.digits n.natAbs, c ≠ d := by
    rintro d noDigit c member rfl
    rw [Decimal.isDigit_of_mem_digits member] at noDigit
    cases noDigit
  have noMinus : (Decimal.digits n.natAbs).dropWhile (· == '-') = Decimal.digits n.natAbs :=
    List.dropWhile_eq_self_iff.2 fun _ minus =>
      apart '-' rfl _ (List.getElem_mem _) (beq_iff_eq.1 minus)
  have unsigned : (Quantity.integerChars n).dropWhile (· == '-') = Decimal.digits n.natAbs := by
    unfold Quantity.integerChars
    split
    · exact noMinus
    · exact noMinus
  have noPoint : ∀ c ∈ Decimal.digits n.natAbs, (c != '.') = true := fun c member =>
    bne_iff_ne.2 (apart '.' rfl c member)
  rw [ofText, unsigned, List.takeWhile_eq_self_iff.2 noPoint, List.dropWhile_eq_nil_iff.2 noPoint]
  exact ofDigits_whole n.natAbs

end Operands

/-! ## Rules on short numbers -/

open Operands

/-- A relation compares with short numbers only, or with remainders that the kept digits
determine. -/
def Relation.Short (r : Relation) : Prop :=
  (∀ m ∈ r.modulus, m ∣ 10 ^ keptDigits) ∧
    (r.modulus = none → ∀ range ∈ r.ranges, range.2 < 10 ^ keptDigits)

instance (r : Relation) : Decidable r.Short := inferInstanceAs (Decidable (_ ∧ _))

def Rules.Short (rules : Rules) : Prop :=
  ∀ rule ∈ rules, ∀ relations ∈ rule.2, ∀ r ∈ relations, Relation.Short r

instance (rules : Rules) : Decidable (Rules.Short rules) :=
  inferInstanceAs (Decidable (∀ rule ∈ rules, ∀ relations ∈ rule.2, ∀ r ∈ relations, _))

/-- Every language has short rules. -/
theorem languages_short : ∀ language ∈ languages, Rules.Short language.2 := by decide +kernel

/-- A long number and what is kept of it lie beyond all short ranges. -/
theorem contain_long {ranges : Ranges} {x : Nat}
    (short : ∀ range ∈ ranges, range.2 < 10 ^ keptDigits) (long : 10 ^ keptDigits ≤ x) :
    Ranges.contain ranges x = false := by
  rw [Bool.eq_false_iff, ne_eq, Ranges.contain_iff]
  rintro ⟨range, member, -, upper⟩
  exact Nat.not_le.2 (short range member) (Nat.le_trans long upper)

/-- A short relation holds of a number as of what is kept of it. -/
theorem Relation.holds_keptWhole {r : Relation} (short : r.Short) (n : Nat) :
    r.holds (ofWhole (keptWhole n)) = r.holds (ofWhole n) := by
  by_cases few : n < 10 ^ keptDigits
  · rw [keptWhole, if_pos few]
  · have long : 10 ^ keptDigits ≤ n := Nat.le_of_not_lt few
    have kept : keptWhole n = n % 10 ^ keptDigits + 10 ^ keptDigits := if_neg few
    have contained : Ranges.contain r.ranges (r.modulus.elim (keptWhole n) (keptWhole n % ·)) =
        Ranges.contain r.ranges (r.modulus.elim n (n % ·)) := by
      cases modulus : r.modulus with
      | some m =>
        have divides : m ∣ 10 ^ keptDigits := short.1 m modulus
        have remainder : keptWhole n % m = n % m := by
          rw [kept, Nat.add_mod, Nat.mod_mod_of_dvd n divides, Nat.mod_eq_zero_of_dvd divides,
            Nat.add_zero, Nat.mod_mod]
        exact congrArg (Ranges.contain r.ranges) remainder
      | none =>
        have ends := short.2 modulus
        have keptLong : 10 ^ keptDigits ≤ keptWhole n := by
          rw [kept]
          exact Nat.le_add_left _ _
        exact (contain_long ends keptLong).trans (contain_long ends long).symm
    -- The operands of a whole number differ in its whole part only.
    cases term : r.term <;>
      simp only [Relation.holds, term, Operands.term?, ofWhole, if_pos, contained]

theorem Condition.holds_iff {condition : Condition} {o : Operands} :
    condition.holds o = true ↔ ∃ relations ∈ condition, ∀ r ∈ relations, r.holds o = true := by
  simp only [Condition.holds, List.any_eq_true, List.all_eq_true]

theorem Condition.holds_keptWhole {condition : Condition}
    (short : ∀ relations ∈ condition, ∀ r ∈ relations, Relation.Short r) (n : Nat) :
    condition.holds (ofWhole (keptWhole n)) = condition.holds (ofWhole n) := by
  rw [Bool.eq_iff_iff, Condition.holds_iff, Condition.holds_iff]
  refine exists_congr fun relations => and_congr_right fun member => ?_
  refine forall₂_congr fun r inRelations => ?_
  rw [Relation.holds_keptWhole (short relations member r inRelations)]

namespace Rules

/-- The category of a number is that of what is kept of it. -/
theorem category_keptWhole {rules : Rules} (short : rules.Short) (n : Nat) :
    rules.category (ofWhole (keptWhole n)) = rules.category (ofWhole n) := by
  have found : rules.find? (fun rule => Condition.holds rule.2 (ofWhole (keptWhole n))) =
      rules.find? (fun rule => Condition.holds rule.2 (ofWhole n)) :=
    List.find?_congr fun rule member => Condition.holds_keptWhole (short rule member) n
  rw [category, category, found]

/-! ## Detection -/

/-- The category of a quantity is read off its canonical text; infinity has none there. -/
theorem detect_eq_ofText {rules : Rules} (short : rules.Short) (q : Quantity) :
    rules.detect q =
      if q.value.isFinite then rules.category (ofText q.canonicalChars) else .other := by
  cases q with
  | integer n =>
    rw [if_pos (Quantity.isFinite_value_integer n), Quantity.canonicalChars, ofText_integerChars,
      category_keptWhole short]
    rfl
  | measure x isNumber notSmall =>
    rw [detect, ofQuantity?]
    by_cases finite : x.isFinite = true
    · rw [if_pos finite]
      exact (if_pos finite).symm
    · rw [if_neg finite]
      exact (if_neg finite).symm

end Rules

end Plural

namespace Registry

theorem short_of_rules? {locale : String} {rules : Plural.Rules}
    (found : rules? locale = some rules) : rules.Short := by
  obtain ⟨language, first, rfl⟩ := Option.map_eq_some_iff.1 found
  exact Plural.languages_short language (List.mem_of_find?_eq_some first)

/-- What the standard registry sees of a quantity is its canonical text, and whether it is
finite. -/
theorem categoryIndex_standard_congr {q r : Quantity} (texts : q.canonicalChars = r.canonicalChars)
    (finite : q.value.isFinite = r.value.isFinite) (locale : String) :
    standard.categoryIndex locale q = standard.categoryIndex locale r := by
  simp only [categoryIndex, standard]
  cases found : rules? locale with
  | none => rfl
  | some rules =>
    have detected : rules.detect q = rules.detect r := by
      rw [Plural.Rules.detect_eq_ofText (short_of_rules? found) q,
        Plural.Rules.detect_eq_ofText (short_of_rules? found) r, texts, finite]
    simp only [Classifier.index, Classifier.ofRules, detected]

end Registry

end PluralTemplate
