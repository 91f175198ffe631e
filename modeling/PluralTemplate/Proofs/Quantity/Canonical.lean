import PluralTemplate.Proofs.Plural.Detection

/-!
# Canonical texts

The canonical text of a quantity is a literal, unless it is infinity, and spells the value of the
quantity (`binary64?_canonicalChars`). So it determines all that selection looks at, and it reads
back as a quantity of the same canonical text (`canonical_determines_selection`).

The quantity that is read back may be another one: a number from `2 ^ 53` on is held as binary64
when it is given as such, and as an exact integer when its digits are read.
-/

set_option autoImplicit false

namespace PluralTemplate

theorem Text.outside_of_any {p : Char → Bool} {text : List Char} (none : text.any p = false) :
    ∀ c ∈ text, p c = false := by
  intro c member
  rw [Bool.eq_false_iff]
  exact List.any_eq_false.1 none c member

theorem Text.strip_eq_self {p : Char → Bool} {text : List Char}
    (outside : ∀ c ∈ text, p c = false) : strip p text = text := by
  have kept : ∀ part : List Char, (∀ c ∈ part, p c = false) → part.dropWhile p = part := by
    intro part none
    refine List.dropWhile_eq_self_iff.2 fun _ => ?_
    rw [Bool.not_eq_true]
    exact none _ (List.getElem_mem _)
  rw [strip, kept text outside, kept text.reverse (by simpa using outside), List.reverse_reverse]

theorem withSign_natAbs (n : Int) : withSign (n < 0) n.natAbs = n := by
  simp only [withSign, decide_eq_true_eq]
  split <;> omega

namespace Numeral

theorem fitsWord_iff {n : Int} : FitsWord n ↔ -2 ^ 63 ≤ n ∧ n < 2 ^ 63 := by
  have least : Int64.minValue.toInt = -2 ^ 63 := by decide
  have greatest : Int64.maxValue.toInt = 2 ^ 63 - 1 := by decide
  rw [FitsWord, least, greatest, Int.le_sub_one_iff]

theorem fitsWord_toInt (n : Int64) : FitsWord n.toInt := fitsWord_iff.2 ⟨n.le_toInt, n.toInt_lt⟩

theorem toInt_ofInt_of_fitsWord {n : Int} (fits : FitsWord n) : (Int64.ofInt n).toInt = n :=
  Int64.toInt_ofInt_of_le (fitsWord_iff.1 fits).1 (fitsWord_iff.1 fits).2

end Numeral

/-! ## Literals as quantities -/

namespace Grammar.Literal

theorem isWhiteSpace_of_mem_chars (l : Literal) (c : Char) (member : c ∈ l.chars) :
    Text.isWhiteSpace c = false := by
  rcases l.of_mem_chars member with rfl | rfl | digit
  · rfl
  · rfl
  · exact Text.isWhiteSpace_of_isDigit digit

/-- A scaled number is read as a whole one if it has no fraction and fits a word. -/
theorem integer?_ofScaled (negative : Bool) (n places : Nat) :
    Numeral.integer? (ofScaled negative n places).chars =
      if places = 0 ∧ Numeral.FitsWord (withSign negative n) then
        some (Int64.ofInt (withSign negative n))
      else none := by
  have sign : (ofScaled negative n places).negative = negative := rfl
  simp only [Numeral.integer?, splitSign_chars, sign]
  by_cases whole : places = 0
  · have digits : Numeral.isDigits (Decimal.digits n) = true := by
      rw [Numeral.isDigits, Bool.and_eq_true, Bool.not_eq_true', List.isEmpty_eq_false_iff,
        List.all_eq_true]
      exact ⟨Nat.toDigits_ne_nil, fun _ => Decimal.isDigit_of_mem_digits⟩
    simp only [whole, body_ofScaled_zero, digits, Decimal.value_digits, if_true, true_and, withSign]
  · have point : Numeral.isDigits (ofScaled negative n places).body = false := by
      rw [body_ofScaled negative n (Nat.pos_of_ne_zero whole), Numeral.isDigits,
        Bool.and_eq_false_iff, List.all_eq_false]
      exact .inr ⟨'.', by simp, by decide⟩
    simp only [point, whole, false_and, if_false, Bool.false_eq_true]

/-- An integer is written as a literal without a fraction. -/
theorem chars_ofScaled_zero {negative : Bool} {n : Nat} (signless : negative = true → n ≠ 0) :
    (ofScaled negative n 0).chars = Quantity.integerChars (withSign negative n) := by
  have sign : (ofScaled negative n 0).negative = negative := rfl
  rw [chars, sign, body_ofScaled_zero, Quantity.integerChars]
  cases negative with
  | false => simp [signChars, withSign]
  | true =>
    have some : n ≠ 0 := signless rfl
    simp [signChars, withSign, some]

theorem integerChars_eq (n : Int) :
    Quantity.integerChars n = (ofScaled (n < 0) n.natAbs 0).chars := by
  rw [chars_ofScaled_zero, withSign_natAbs]
  intro below
  have negative : n < 0 := of_decide_eq_true below
  omega

end Grammar.Literal

/-! ## The text of a number -/

theorem Magnitude.eq_infinity {m : Magnitude} (infinite : ¬ m.isFinite = true) : m = infinity := by
  have last : infinityRank ≤ m.rank := by simpa [isFinite] using infinite
  apply eq_of_rank_eq
  rw [infinity, rank_ofRank (Nat.le_refl _)]
  exact Nat.le_antisymm m.rank_le last

/-- A number is written as a literal that spells it, or it is infinite. -/
theorem Binary64.written_cases {x : Binary64} (isNumber : x ≠ .nan) :
    (∃ negative n places, (Grammar.Literal.ofScaled negative n places).chars = x.chars ∧
      signed negative (Magnitude.nearest n (10 ^ places)) = x) ∨
    x = signed false .infinity ∨ x = signed true .infinity := by
  cases x with
  | nan => exact absurd rfl isNumber
  | signed negative m =>
    by_cases finite : m.isFinite = true
    · obtain ⟨n, places, text, number⟩ := exists_scaled_chars negative finite
      exact .inl ⟨negative, n, places, text, by rw [number]⟩
    · rw [Magnitude.eq_infinity finite]
      cases negative with
      | false => exact .inr (.inl rfl)
      | true => exact .inr (.inr rfl)

namespace Quantity

open Grammar (Literal)

theorem ofBinary64?_of_some {x : Binary64} {n : Int64} (small : x.smallInteger? = some n) :
    ofBinary64? x = some (integer n) := by
  unfold ofBinary64?
  split
  · rename_i k found
    rw [small] at found
    rw [Option.some.inj found]
  · rename_i none
    rw [small] at none
    cases none

theorem ofBinary64?_of_none {x : Binary64} (isNumber : x ≠ .nan)
    (notSmall : x.smallInteger? = none) : ofBinary64? x = some (measure x isNumber notSmall) := by
  unfold ofBinary64?
  split
  · rename_i found
    rw [notSmall] at found
    cases found
  · exact dif_neg isNumber

theorem exists_ofBinary64? {x : Binary64} (isNumber : x ≠ .nan) : ∃ q, ofBinary64? x = some q := by
  cases small : x.smallInteger? with
  | some n => exact ⟨_, ofBinary64?_of_some small⟩
  | none => exact ⟨_, ofBinary64?_of_none isNumber small⟩

/-- The text of a number spells that number. -/
theorem binary64?_chars {x : Binary64} (isNumber : x ≠ .nan) :
    Numeral.binary64? x.chars = some x := by
  rcases Binary64.written_cases isNumber with ⟨negative, n, places, text, number⟩ | rfl | rfl
  · rw [← text, Grammar.binary64?_chars, Literal.value_ofScaled, number]
  · rfl
  · rfl

theorem isWhiteSpace_of_mem_chars {x : Binary64} (isNumber : x ≠ .nan) :
    ∀ c ∈ x.chars, Text.isWhiteSpace c = false := by
  rcases Binary64.written_cases isNumber with ⟨negative, n, places, text, -⟩ | rfl | rfl
  · rw [← text]
    exact Literal.isWhiteSpace_of_mem_chars _
  · exact Text.outside_of_any (by decide)
  · exact Text.outside_of_any (by decide)

section Reading

variable {text : List Char} (visible : ∀ c ∈ text, Text.isWhiteSpace c = false)

include visible

/-- A text without white space is read as a whole number if it is one that fits a word. -/
theorem parse?_of_integer {n : Int64} (read : Numeral.integer? text = some n) :
    parse? (String.ofList text) = some (integer n) := by
  rw [parse?, String.toList_ofList, Text.strip_eq_self visible]
  simp only [read]

/-- It is read as a binary64 number otherwise. -/
theorem parse?_of_binary64 {x : Binary64} (noInteger : Numeral.integer? text = none)
    (read : Numeral.binary64? text = some x) : parse? (String.ofList text) = ofBinary64? x := by
  rw [parse?, String.toList_ofList, Text.strip_eq_self visible]
  simp only [noInteger, read, Option.bind_some]

end Reading

/-- A number whose text is read as a whole number has the digits of that number. -/
theorem canonicalChars_of_integer? {x : Binary64} {k : Int64} {q : Quantity} (isNumber : x ≠ .nan)
    (read : Numeral.integer? x.chars = some k) (held : ofBinary64? x = some q) :
    q.canonicalChars = integerChars k.toInt := by
  rcases Binary64.written_cases isNumber with ⟨negative, n, places, text, number⟩ | rfl | rfl
  · rw [← text, Literal.integer?_ofScaled] at read
    split at read
    · rename_i whole
      obtain ⟨rfl, fits⟩ := whole
      obtain rfl := Option.some.inj read
      have small := Binary64.smallInteger?_nearest negative n
      rw [pow_zero] at number
      rw [number] at small
      by_cases few : n < 2 ^ 53
      · rw [if_pos few] at small
        rw [ofBinary64?_of_some small] at held
        rw [← Option.some.inj held, canonicalChars]
      · rw [if_neg few] at small
        rw [ofBinary64?_of_none isNumber small] at held
        have signless : negative = true → n ≠ 0 := fun _ => by omega
        rw [← Option.some.inj held, canonicalChars, ← text, Literal.chars_ofScaled_zero signless,
          Numeral.toInt_ofInt_of_fitsWord fits]
    · cases read
  · cases read
  · cases read

/-- The text of a number reads back as a quantity of its canonical text. -/
theorem parse?_text {x : Binary64} {q : Quantity} (isNumber : x ≠ .nan)
    (held : ofBinary64? x = some q) :
    ∃ r, parse? x.text = some r ∧ r.canonical = q.canonical := by
  have visible := isWhiteSpace_of_mem_chars isNumber
  cases read : Numeral.integer? x.chars with
  | some k =>
    refine ⟨.integer k, parse?_of_integer visible read, ?_⟩
    rw [canonical, canonical, canonicalChars_of_integer? isNumber read held]
    rfl
  | none =>
    have parsed := parse?_of_binary64 visible read (binary64?_chars isNumber)
    exact ⟨q, parsed.trans held, rfl⟩

/-- The digits of an integer read back as that integer. -/
theorem parse?_integerChars (n : Int64) :
    parse? (String.ofList (integerChars n.toInt)) = some (integer n) := by
  rw [Literal.integerChars_eq]
  refine parse?_of_integer (Literal.isWhiteSpace_of_mem_chars _) ?_
  rw [Literal.integer?_ofScaled, withSign_natAbs, if_pos ⟨rfl, Numeral.fitsWord_toInt n⟩,
    Int64.ofInt_toInt]

/-- The canonical text of a quantity spells its value. -/
theorem binary64?_canonicalChars (q : Quantity) :
    Numeral.binary64? q.canonicalChars = some q.value := by
  cases q with
  | integer n =>
    rw [canonicalChars, Literal.integerChars_eq, Grammar.binary64?_chars, Literal.value_ofScaled,
      pow_zero]
    rfl
  | measure x isNumber _ => exact binary64?_chars isNumber

/-- The canonical text determines the value, the category in every locale and the variant that is
selected, and it reads back as a quantity of that text. Every quantity is meant, be it held as an
exact integer or not. -/
theorem canonical_determines_selection :
    (∀ q r : Quantity, q.canonical = r.canonical →
      q.value = r.value ∧
      (∀ locale, Registry.standard.categoryIndex locale q =
        Registry.standard.categoryIndex locale r) ∧
      ∀ (set : VariantSet) (locale : String),
        set.select q locale .standard = set.select r locale .standard) ∧
    ∀ q : Quantity, ∃ r, parse? q.canonical = some r ∧ r.canonical = q.canonical := by
  refine ⟨fun q r same => ?_, fun q => ?_⟩
  · have texts : q.canonicalChars = r.canonicalChars := String.ofList_injective same
    have values : q.value = r.value := by
      have spelled := binary64?_canonicalChars q
      rw [texts, binary64?_canonicalChars r] at spelled
      exact (Option.some.inj spelled).symm
    have indices : ∀ locale, Registry.standard.categoryIndex locale q =
        Registry.standard.categoryIndex locale r :=
      Registry.categoryIndex_standard_congr texts (congrArg Binary64.isFinite values)
    refine ⟨values, indices, fun set locale => ?_⟩
    rw [VariantSet.select, VariantSet.choose, same, values, indices]
    rfl
  · cases q with
    | integer n => exact ⟨.integer n, parse?_integerChars n, rfl⟩
    | measure x isNumber notSmall => exact parse?_text isNumber (ofBinary64?_of_none isNumber notSmall)

/-- The greatest binary64 number below `2 ^ 63` is written with fewer digits than it has. As an
exact integer that text is another quantity, with other operands, and selection does not tell. -/
theorem canonical_determines_selection_huge :
    let held : Quantity := .integer 9223372036854775000
    let rounded : Quantity :=
      .measure (.ofInt 9223372036854774784) (by decide +kernel) (by decide +kernel)
    Plural.Operands.ofQuantity? held ≠ Plural.Operands.ofQuantity? rounded ∧
      held.canonical = rounded.canonical ∧
      held.value = rounded.value ∧
      (∀ locale, Registry.standard.categoryIndex locale held =
        Registry.standard.categoryIndex locale rounded) ∧
      ∀ (set : VariantSet) (locale : String),
        set.select held locale .standard = set.select rounded locale .standard := by
  intro held rounded
  have same : held.canonical = rounded.canonical := by decide +kernel
  exact ⟨by decide +kernel, same, canonical_determines_selection.1 held rounded same⟩

end Quantity

end PluralTemplate
