import PluralTemplate.Proofs.Plural.Places
import PluralTemplate.Proofs.Quantity.Canonical

/-!
# Categories without the sign

The operands of a number are those of its opposite: an integer gives them by its size, and any
other number by its text, which is that of the opposite but for a minus sign in front. So every
rule of every language sees numbers of opposite sign alike (`Quantity.exists_opposite`).

Operands may be read by another library, as long as it takes integers by their size and accepts
digits with an optional fraction. The text of a finite number is such digits, and not too many of
them (`Binary64.exists_printable`), so the reading fails for infinity only.
-/

set_option autoImplicit false

namespace PluralTemplate

open Grammar (Literal)
open Plural (Operands)

/-! ## Literals as operands -/

namespace Grammar.Literal

theorem dropWhile_minus_body (l : Literal) : l.body.dropWhile (· == '-') = l.body := by
  obtain ⟨c, rest, digit, cons⟩ := l.exists_body_eq_cons
  have noMinus : (c == '-') = false := by
    rw [beq_eq_false_iff_ne]
    rintro rfl
    cases digit
  rw [cons, List.dropWhile_cons_of_neg (by simp [noMinus])]

/-- Without its sign, a literal is its body. -/
theorem dropWhile_minus_chars (l : Literal) : l.chars.dropWhile (· == '-') = l.body := by
  rw [chars, signChars]
  split
  · exact l.dropWhile_minus_body
  · exact l.dropWhile_minus_body

/-- The digits before the point are those in front of the first one. -/
theorem ofText_body (l : Literal) : Operands.ofText l.body = .ofDigits l.whole.chars l.places := by
  have whole : ∀ c ∈ l.whole.chars, (c != '.') = true := by
    intro c member
    rw [bne_iff_ne]
    rintro rfl
    cases l.whole.digit _ member
  have behind : StartsOutside (· != '.') l.fractionChars := by
    unfold fractionChars
    split
    · exact startsOutside_nil _
    · exact startsOutside_cons rfl _
  have places : l.fractionChars.drop 1 = l.places := by
    unfold fractionChars Literal.places
    cases l.fraction <;> rfl
  rw [Operands.ofText, dropWhile_minus_body, body, takeWhile_run whole behind,
    dropWhile_run whole behind, places]

/-- As many digits as a finite number is written with at most. -/
structure Printable (l : Literal) : Prop where
  whole : l.whole.chars.length ≤ 309
  places : l.places.length ≤ 1074

end Grammar.Literal

/-- A finite number is written as digits with an optional fraction, behind an optional minus
sign. -/
theorem Binary64.exists_printable {x : Binary64} (finite : x.isFinite = true) :
    ∃ l : Literal, l.chars = x.chars ∧ l.Printable := by
  cases x with
  | nan => cases finite
  | signed negative m =>
    obtain ⟨n, places, text, number, within⟩ := exists_scaled_chars_within negative finite
    refine ⟨.ofScaled negative n places, text, ?_, ?_⟩
    · have bounded : n < 2 ^ (Magnitude.unitPlaces - 50) * 10 ^ places := by
        by_contra large
        have infinite := Magnitude.nearest_eq_infinity (Nat.pow_pos (by decide))
          (Nat.le_of_not_lt large)
        have endless : Magnitude.infinity.isFinite = false := by decide
        rw [isFinite, ← number, infinite, endless] at finite
        cases finite
      have whole : n / 10 ^ places < 10 ^ 309 :=
        calc n / 10 ^ places < 2 ^ (Magnitude.unitPlaces - 50) :=
              (Nat.div_lt_iff_lt_mul (Nat.pow_pos (by decide))).2 bounded
          _ < 10 ^ 309 := by
              rw [Magnitude.unitPlaces_eq]
              decide +kernel
      exact (Decimal.length_digits_le_iff (by decide)).2 whole
    · rw [(Literal.digits_ofScaled negative n places).2, ← Magnitude.unitPlaces_eq]
      exact within

namespace Plural

/-! ## Reading operands -/

/-- A library that finds operands, of integers and of texts. It may refuse a text. -/
structure OperandReader where
  ofInteger : Int64 → Operands
  ofText? : List Char → Option Operands

namespace OperandReader

/-- The library takes integers by their size, and accepts digits with an optional fraction if a
number may be written with as many. -/
structure Sound (r : OperandReader) : Prop where
  ofInteger : ∀ n, r.ofInteger n = .ofWhole n.toInt.natAbs
  ofText? : ∀ l : Literal, l.Printable → r.ofText? l.body = some (.ofDigits l.whole.chars l.places)

/-- The operands of a quantity as the library finds them. Infinity is not given to it, and nor is a
minus sign. -/
def operands? (r : OperandReader) : Quantity → Option Operands
  | .integer n => some (r.ofInteger n)
  | .measure x _ _ =>
    if x.isFinite then r.ofText? (x.chars.dropWhile (· == '-')) else none

/-- The library does not refuse any text that it is given. -/
theorem Sound.operands?_eq {r : OperandReader} (sound : r.Sound) (q : Quantity) :
    r.operands? q = Operands.ofQuantity? q := by
  cases q with
  | integer n => exact congrArg some (sound.ofInteger n)
  | measure x isNumber notSmall =>
    rw [operands?, Operands.ofQuantity?]
    by_cases finite : x.isFinite = true
    · obtain ⟨l, text, printable⟩ := Binary64.exists_printable finite
      have unsigned : Operands.ofText l.chars = Operands.ofText l.body := by
        rw [Operands.ofText, Operands.ofText, l.dropWhile_minus_chars, l.dropWhile_minus_body]
      rw [if_pos finite, if_pos finite, ← text, l.dropWhile_minus_chars, sound.ofText? l printable,
        unsigned, l.ofText_body]
    · rw [if_neg finite, if_neg finite]

end OperandReader

/-- Infinity alone has no operands. -/
theorem Operands.isSome_ofQuantity? (q : Quantity) :
    (ofQuantity? q).isSome = q.value.isFinite := by
  cases q with
  | integer n => exact (Quantity.isFinite_value_integer n).symm
  | measure x isNumber notSmall =>
    rw [ofQuantity?, Quantity.value]
    cases x.isFinite <;> rfl

/-! ## Numbers of opposite sign -/

/-- A minus sign more or less in front of a text is dropped. -/
theorem Operands.ofText_chars_neg (x : Binary64) : ofText x.neg.chars = ofText x.chars := by
  cases x with
  | nan => rfl
  | signed negative m => cases negative <;> rfl

end Plural

theorem Binary64.smallInteger?_neg (x : Binary64) :
    x.neg.smallInteger? = x.smallInteger?.map fun n => -n := by
  cases x with
  | nan => rfl
  | signed negative m =>
    simp only [neg, smallInteger?]
    split
    · cases negative <;> simp
    · rfl

/-- The opposite of a word has its size; the least word is its own opposite. -/
theorem natAbs_toInt_neg (n : Int64) : (-n).toInt.natAbs = n.toInt.natAbs := by
  have lower := n.le_toInt
  have upper := n.toInt_lt
  rw [Int64.toInt_neg]
  by_cases least : n.toInt = -2 ^ 63
  · rw [least]
    decide
  · rw [Int.bmod_eq_of_le (by omega) (by omega), Int.natAbs_neg]

namespace Quantity

open Plural (Operands Rules)

theorem ofQuantity?_integer_neg (n : Int64) :
    Operands.ofQuantity? (integer (-n)) = Operands.ofQuantity? (integer n) := by
  rw [Operands.ofQuantity?, natAbs_toInt_neg]
  rfl

/-- A number and its opposite both have a quantity, with the same operands. -/
theorem exists_opposite {x : Binary64} (isNumber : x ≠ .nan) :
    ∃ q opposite, ofBinary64? x = some q ∧ ofBinary64? x.neg = some opposite ∧
      Operands.ofQuantity? opposite = Operands.ofQuantity? q := by
  have negated := x.smallInteger?_neg
  cases small : x.smallInteger? with
  | some n =>
    rw [small] at negated
    exact ⟨_, _, ofBinary64?_of_some small, ofBinary64?_of_some negated, ofQuantity?_integer_neg n⟩
  | none =>
    rw [small] at negated
    have negIsNumber : x.neg ≠ .nan := by
      cases x with
      | nan => exact absurd rfl isNumber
      | signed negative m => exact Binary64.noConfusion
    have finite : x.neg.isFinite = x.isFinite := by cases x <;> rfl
    refine ⟨_, _, ofBinary64?_of_none isNumber small, ofBinary64?_of_none negIsNumber negated, ?_⟩
    rw [Operands.ofQuantity?, finite, Operands.ofText_chars_neg]
    rfl

theorem detect_congr (rules : Rules) {q r : Quantity}
    (same : Operands.ofQuantity? q = Operands.ofQuantity? r) : rules.detect q = rules.detect r := by
  rw [Rules.detect, Rules.detect, same]

end Quantity

/-- Let a library find operands, integers by their size and texts of digits with an optional
fraction. It finds those of every finite quantity, and they are the ones that rules look at. In
every locale that the standard registry knows, an integer and its opposite have one category, and
so have any other number and its opposite: a fraction, a whole number of any size, or infinity. -/
theorem Registry.standard_category_ignores_sign {r : Plural.OperandReader} (sound : r.Sound) :
    (∀ q : Quantity, q.value.isFinite = true → ∃ o, r.operands? q = some o) ∧
    (∀ q : Quantity, r.operands? q = Plural.Operands.ofQuantity? q) ∧
    ∀ (locale : String) (c : Classifier), standard.classifier locale = .ok c →
      (∀ n : Int64, c.detect (.integer (-n)) = c.detect (.integer n)) ∧
      ∀ x : Binary64, x ≠ .nan →
        ∃ q opposite, Quantity.ofBinary64? x = some q ∧ Quantity.ofBinary64? x.neg = some opposite ∧
          c.detect opposite = c.detect q := by
  refine ⟨fun q finite => ?_, sound.operands?_eq, fun locale c supported => ?_⟩
  · rw [sound.operands?_eq q, ← Option.isSome_iff_exists, Plural.Operands.isSome_ofQuantity?]
    exact finite
  · obtain ⟨rules, -, rfl⟩ := exists_rules_of_classifier_standard supported
    refine ⟨fun n => Quantity.detect_congr rules (Quantity.ofQuantity?_integer_neg n),
      fun x isNumber => ?_⟩
    obtain ⟨q, opposite, held, negated, same⟩ := Quantity.exists_opposite isNumber
    exact ⟨q, opposite, held, negated, Quantity.detect_congr rules same⟩

namespace Plural.OperandReader

/-- A library that refuses what is no decimal. -/
def decimals : OperandReader where
  ofInteger n := .ofWhole n.toInt.natAbs
  ofText? text := if (Numeral.decimal? text).isSome then some (.ofText text) else none

theorem sound_decimals : decimals.Sound where
  ofInteger _ := rfl
  ofText? l _ := by
    simp only [decimals, Grammar.decimal?_body, Option.isSome_some, if_true, l.ofText_body]

end Plural.OperandReader

/-- The least number above zero is read, though it has 324 places. Two and a half is in one category
in Russian with either sign, and so is twenty-one. -/
theorem Registry.standard_category_ignores_sign_russian :
    (∃ o, Plural.OperandReader.decimals.operands?
      (.measure (.ofWord 1) (by decide +kernel) (by decide +kernel)) = some o) ∧
    ∃ c q opposite, standard.classifier "ru_RU" = .ok c ∧
      Quantity.ofBinary64? (.ofWord 0x4004000000000000) = some q ∧
      Quantity.ofBinary64? (.ofWord 0xC004000000000000) = some opposite ∧
      c.detect opposite = c.detect q ∧ c.detect (.integer (-21)) = .one := by
  have signs := standard_category_ignores_sign Plural.OperandReader.sound_decimals
  have found : rules? "ru_RU" = some .eastSlavic := by decide +kernel
  have supported : standard.classifier "ru_RU" = .ok (.ofRules .eastSlavic) := by
    simp only [standard, found]
  obtain ⟨integers, others⟩ := signs.2.2 "ru_RU" _ supported
  obtain ⟨q, opposite, held, negated, same⟩ :=
    others (.ofWord 0x4004000000000000) (by decide +kernel)
  have one : (Classifier.ofRules .eastSlavic).detect (.integer 21) = .one := by decide +kernel
  exact ⟨signs.1 _ (by decide +kernel), _, q, opposite, supported, held, negated, same,
    (integers 21).trans one⟩

end PluralTemplate
