import PluralTemplate.Decimal.Shortest
import PluralTemplate.Proofs.Binary64.Rounding
import PluralTemplate.Proofs.Part.Literals

/-!
# Written numbers read back

The bounds that decide very large and very small decimals at once give what rounding gives
(`toMagnitude_eq_nearest`), so a decimal stands for one magnitude however its power of ten is
split. Positional notation keeps the value of a decimal while it drops zeros, and the shortest
decimal of a magnitude stands for it. So the text of a finite number is a literal, and its value
is that number (`exists_scaled_chars`).
-/

set_option autoImplicit false

namespace PluralTemplate

/-! ## The magnitude of a decimal -/

namespace Magnitude

theorem eq_of_rank_eq {a b : Magnitude} (same : a.rank = b.rank) : a = b := by
  rw [← ofRank_rank a, ← ofRank_rank b, same]

theorem nearest_zero {b : Nat} (pos : 0 < b) : nearest 0 b = zero := by
  refine nearest_of_units pos ?_
  rw [unitsAt_of_lt (by decide), Nat.zero_mul, Nat.zero_mul]

/-- Less than half of a unit is rounded to zero. -/
theorem nearest_eq_zero {a b : Nat} (little : 2 * (a * unitsOfOne) < b) : nearest a b = zero := by
  have below : rankBelow (a * unitsOfOne / b) = 0 := by
    rw [Nat.div_eq_of_lt (by omega)]
    exact rankBelow_of_lt (by decide)
  rcases nearest_cases below with stay | ⟨-, past⟩
  · exact stay
  · rw [unitsAt_of_lt (by decide), unitsAt_of_lt (by decide)] at past
    omega

/-- What is not below `2 ^ 1024` is rounded to infinity. -/
theorem nearest_eq_infinity {a b : Nat} (pos : 0 < b)
    (large : 2 ^ (unitPlaces - 50) * b ≤ a) : nearest a b = infinity := by
  have bound : unitsAt infinityRank * b ≤ a * unitsOfOne := by
    rw [unitsAt_infinityRank, Nat.mul_right_comm]
    exact Nat.mul_le_mul_right _ large
  have atLeast := le_rank_nearest pos (Nat.le_refl infinityRank) bound
  apply eq_of_rank_eq
  rw [infinity, rank_ofRank (Nat.le_refl _)]
  exact Nat.le_antisymm (nearest a b).rank_le atLeast

end Magnitude

namespace Decimal

open Magnitude

theorem two_pow_le_ten_pow (k : Nat) : 2 ^ (3 * k) ≤ 10 ^ k := by
  rw [pow_mul]
  exact Nat.pow_le_pow_left (by decide) k

theorem denominator_pos (d : Decimal) : 0 < d.denominator := by
  rw [denominator, Nat.pow_eq]
  exact Nat.pow_pos (by decide)

/-- The powers of ten that are decided without rounding are decided as rounding does. -/
theorem toMagnitude_eq_nearest (d : Decimal) :
    d.toMagnitude = nearest d.numerator d.denominator := by
  obtain ⟨mantissa, exponent⟩ := d
  unfold toMagnitude
  dsimp only
  split
  · rename_i none
    rw [numerator, none, Nat.zero_mul, nearest_zero (denominator_pos _)]
  · rename_i some
    split
    · rename_i large
      have whole : (-exponent).toNat = 0 := by omega
      obtain ⟨places, rfl⟩ := Int.eq_ofNat_of_zero_le (show 0 ≤ exponent by omega)
      simp only [numerator, denominator, whole, Int.toNat_natCast, Nat.pow_eq, pow_zero]
      refine (nearest_eq_infinity Nat.one_pos ?_).symm
      rw [Nat.mul_one]
      calc 2 ^ (unitPlaces - 50) ≤ 2 ^ (3 * places) :=
            Nat.pow_le_pow_right (by decide) (by rw [unitPlaces_eq]; omega)
        _ ≤ 10 ^ places := two_pow_le_ten_pow places
        _ ≤ mantissa * 10 ^ places := Nat.le_mul_of_pos_left _ (Nat.pos_of_ne_zero some)
    · split
      · rename_i little
        have whole : exponent.toNat = 0 := by omega
        obtain ⟨places, rfl⟩ : ∃ places : Nat, exponent = -(places : Int) :=
          ⟨(-exponent).toNat, by omega⟩
        simp only [numerator, denominator, whole, neg_neg, Int.toNat_natCast, Nat.pow_eq, pow_zero,
          Nat.mul_one]
        refine (nearest_eq_zero ?_).symm
        have length : mantissa < 2 ^ (mantissa.log2 + 1) := Nat.lt_log2_self
        calc 2 * (mantissa * unitsOfOne) < 2 * (2 ^ (mantissa.log2 + 1) * unitsOfOne) := by
              have scaled := Nat.mul_lt_mul_of_pos_right length unitsOfOne_pos
              omega
          _ = 2 ^ (1 + (mantissa.log2 + 1 + unitPlaces)) := by
              rw [unitsOfOne, Nat.pow_eq, ← pow_add, pow_add 2 1, pow_one]
          _ ≤ 2 ^ (3 * places) :=
              Nat.pow_le_pow_right (by decide) (by rw [unitPlaces_eq]; omega)
          _ ≤ 10 ^ places := two_pow_le_ten_pow places
      · rfl

/-! ## Trailing zeros -/

theorem dropTrailingZeros_spec (places mantissa : Nat) :
    (dropTrailingZeros places mantissa).2 ≤ places ∧
      (dropTrailingZeros places mantissa).1 * 10 ^ (places - (dropTrailingZeros places mantissa).2) =
        mantissa := by
  induction places generalizing mantissa with
  | zero => exact ⟨Nat.le_refl _, by rw [Nat.zero_sub, pow_zero, Nat.mul_one]; rfl⟩
  | succ places ih =>
    unfold dropTrailingZeros
    split
    · rename_i zero
      obtain ⟨fewer, value⟩ := ih (mantissa / 10)
      refine ⟨Nat.le_succ_of_le fewer, ?_⟩
      rw [Nat.succ_sub fewer, pow_succ, ← Nat.mul_assoc, value]
      exact Nat.div_mul_cancel (Nat.dvd_of_mod_eq_zero zero)
    · exact ⟨Nat.le_refl _, by rw [Nat.sub_self, pow_zero, Nat.mul_one]⟩

end Decimal

/-! ## Digits -/

namespace Numeral

theorem value_append (front back : List Char) :
    value (front ++ back) = 10 ^ back.length * value front + value back := by
  rw [value, Nat.ofDigitChars_append, Nat.ofDigitChars_eq_ofDigitChars_zero]
  rfl

theorem value_lt_pow_length {digits : List Char} (digit : ∀ c ∈ digits, c.isDigit = true) :
    value digits < 10 ^ digits.length := by
  induction digits with
  | nil => exact Nat.one_pos
  | cons c rest ih =>
    have range : 48 ≤ c.toNat ∧ c.toNat ≤ 57 :=
      Char.isDigit_iff_toNat.1 (digit c List.mem_cons_self)
    have first : value [c] ≤ 9 := by
      simp only [value, Nat.ofDigitChars_cons, Nat.ofDigitChars_nil]
      change 10 * 0 + (c.toNat - 48) ≤ 9
      omega
    have others := ih fun d member => digit d (List.mem_cons_of_mem c member)
    have scaled := Nat.mul_le_mul_left (10 ^ rest.length) first
    rw [← List.singleton_append, value_append, List.length_append, List.length_singleton,
      Nat.add_comm 1, pow_succ]
    omega

end Numeral

namespace Decimal

theorem isDigit_of_mem_digits {n : Nat} {c : Char} (member : c ∈ digits n) : c.isDigit = true :=
  Nat.isDigit_of_mem_toDigits (by decide) (by decide) member

theorem value_digits (n : Nat) : Numeral.value (digits n) = n := Nat.ofDigitChars_ten_toDigits

theorem length_digits_le_iff {n width : Nat} (some : 0 < width) :
    (digits n).length ≤ width ↔ n < 10 ^ width :=
  Nat.length_toDigits_le_iff (by decide) some

theorem isDigit_of_mem_paddedDigits {width n : Nat} {c : Char}
    (member : c ∈ paddedDigits width n) : c.isDigit = true := by
  rcases List.mem_append.1 member with zero | digit
  · rw [List.eq_of_mem_replicate zero]
    rfl
  · exact isDigit_of_mem_digits digit

theorem value_paddedDigits (width n : Nat) : Numeral.value (paddedDigits width n) = n := by
  rw [paddedDigits, Numeral.value, Nat.ofDigitChars_append, Nat.ofDigitChars_replicate_zero,
    Nat.mul_zero]
  exact value_digits n

theorem length_paddedDigits {width n : Nat} (some : 0 < width) (fits : n < 10 ^ width) :
    (paddedDigits width n).length = width := by
  have short : (digits n).length ≤ width := (length_digits_le_iff some).2 fits
  rw [paddedDigits, List.length_append, List.length_replicate]
  exact Nat.sub_add_cancel short

theorem numerator_mk_neg (n places : Nat) : numerator ⟨n, -(places : Int)⟩ = n := by
  rw [numerator, Int.toNat_neg_natCast, Nat.pow_eq, pow_zero, Nat.mul_one]

theorem denominator_mk_neg (n places : Nat) : denominator ⟨n, -(places : Int)⟩ = 10 ^ places := by
  rw [denominator, neg_neg, Int.toNat_natCast, Nat.pow_eq]

end Decimal

/-! ## Literals in positional notation -/

namespace Grammar.Literal

/-- The literal of `n / 10 ^ places`. -/
def ofScaled (negative : Bool) (n places : Nat) : Literal where
  negative := negative
  whole := ⟨Decimal.digits (n / 10 ^ places), Nat.toDigits_ne_nil,
    fun _ => Decimal.isDigit_of_mem_digits⟩
  fraction :=
    if visible : 0 < places then
      some ⟨Decimal.paddedDigits places (n % 10 ^ places), by
        rw [← List.length_pos_iff,
          Decimal.length_paddedDigits visible (Nat.mod_lt _ (Nat.pow_pos (by decide)))]
        exact visible, fun _ => Decimal.isDigit_of_mem_paddedDigits⟩
    else none

/-- The digits of a scaled number spell it, and as many as asked for stand behind the point. -/
theorem digits_ofScaled (negative : Bool) (n places : Nat) :
    Numeral.value ((ofScaled negative n places).whole.chars ++
        (ofScaled negative n places).places) = n ∧
      (ofScaled negative n places).places.length = places := by
  have fits : n % 10 ^ places < 10 ^ places := Nat.mod_lt _ (Nat.pow_pos (by decide))
  by_cases visible : 0 < places
  · have behind : (ofScaled negative n places).places =
        Decimal.paddedDigits places (n % 10 ^ places) := by
      simp only [Literal.places, ofScaled, dif_pos visible]
    rw [behind]
    have whole : Numeral.value (ofScaled negative n places).whole.chars = n / 10 ^ places :=
      Decimal.value_digits _
    refine ⟨?_, Decimal.length_paddedDigits visible fits⟩
    rw [Numeral.value_append, Decimal.length_paddedDigits visible fits, whole,
      Decimal.value_paddedDigits, Nat.div_add_mod]
  · obtain rfl : places = 0 := by omega
    have behind : (ofScaled negative n 0).places = [] := rfl
    rw [behind, List.append_nil]
    refine ⟨?_, rfl⟩
    refine (Decimal.value_digits _).trans ?_
    rw [pow_zero, Nat.div_one]

theorem value_ofScaled (negative : Bool) (n places : Nat) :
    (ofScaled negative n places).value = .signed negative (Magnitude.nearest n (10 ^ places)) := by
  obtain ⟨number, count⟩ := digits_ofScaled negative n places
  rw [value, number, count, Decimal.toMagnitude_eq_nearest, Decimal.numerator_mk_neg,
    Decimal.denominator_mk_neg]
  rfl

theorem body_ofScaled_zero (negative : Bool) (n : Nat) :
    (ofScaled negative n 0).body = Decimal.digits n := by
  have whole : (ofScaled negative n 0).body = Decimal.digits (n / 10 ^ 0) ++ [] := rfl
  rw [whole, List.append_nil, pow_zero, Nat.div_one]

theorem body_ofScaled (negative : Bool) (n : Nat) {places : Nat} (visible : 0 < places) :
    (ofScaled negative n places).body =
      Decimal.digits (n / 10 ^ places) ++ '.' ::
        Decimal.paddedDigits places (n % 10 ^ places) := by
  simp only [body, fractionChars, ofScaled, dif_pos visible]

end Grammar.Literal

open Grammar (Literal)

/-- What is written positionally is a literal, of a number with the magnitude that the decimal
stands for, and with no more places than the decimal has. -/
theorem Decimal.exists_scaled_positional (negative : Bool) (d : Decimal) :
    ∃ n places, (Literal.ofScaled negative n places).body = d.positional ∧
      Magnitude.nearest n (10 ^ places) = d.toMagnitude ∧ places ≤ (-d.exponent).toNat := by
  obtain ⟨fewer, number⟩ := dropTrailingZeros_spec (-d.exponent).toNat d.numerator
  unfold positional
  generalize dropTrailingZeros (-d.exponent).toNat d.numerator = kept at fewer number
  obtain ⟨mantissa, places⟩ := kept
  dsimp only at fewer number ⊢
  refine ⟨mantissa, places, ?_, ?_, fewer⟩
  · split
    · rename_i none
      rw [none]
      exact Literal.body_ofScaled_zero negative mantissa
    · rename_i some
      rw [Nat.pow_eq]
      exact Literal.body_ofScaled negative mantissa (Nat.pos_of_ne_zero some)
  · have ratio : mantissa * d.denominator = d.numerator * 10 ^ places := by
      rw [← number, denominator, Nat.pow_eq, Nat.mul_assoc, ← pow_add, Nat.sub_add_cancel fewer]
    rw [d.toMagnitude_eq_nearest]
    exact Magnitude.nearest_eq_of_ratio (Nat.pow_pos (by decide)) d.denominator_pos ratio

/-! ## The text of a number -/

namespace Magnitude

/-- A neighbour on a grid reads back, and has the places of the grid. -/
theorem neighbour?_spec {m : Magnitude} {place : Int} {d : Decimal}
    (found : m.neighbour? place = some d) : m.ReadsBack d ∧ d.exponent = place := by
  unfold neighbour? at found
  dsimp only at found
  split at found
  · rename_i lower
    obtain rfl := Option.some.inj found
    exact ⟨lower.1, rfl⟩
  · split at found
    · rename_i upper
      obtain rfl := Option.some.inj found
      exact ⟨upper, rfl⟩
    · cases found

theorem readsBack_exactDecimal (m : Magnitude) : m.ReadsBack m.exactDecimal := by
  have powers : 10 ^ unitPlaces = 5 ^ unitPlaces * unitsOfOne := by
    rw [unitsOfOne, Nat.pow_eq, ← Nat.mul_pow]
  rw [ReadsBack, Decimal.toMagnitude_eq_nearest, exactDecimal, Decimal.numerator_mk_neg,
    Decimal.denominator_mk_neg]
  refine (nearest_of_units (Nat.pow_pos (by decide)) ?_).trans (ofRank_rank m)
  rw [powers, Nat.pow_eq, Nat.mul_assoc]
  rfl

/-- The shortest decimal was found on a grid, or is the exact one. -/
theorem shortest_cases (m : Magnitude) :
    m.shortest = m.exactDecimal ∨
      ∃ k : Nat, k < 20 ∧ m.neighbour? (m.topPlace - k) = some m.shortest := by
  unfold shortest
  cases found : (List.range 20).findSome? fun (k : Nat) => m.neighbour? (m.topPlace - k) with
  | none => exact .inl rfl
  | some d =>
    obtain ⟨k, searched, neighbour⟩ := List.exists_of_findSome?_eq_some found
    exact .inr ⟨k, List.mem_range.1 searched, neighbour⟩

/-- The shortest decimal stands for the magnitude, whichever grid it was found on. -/
theorem readsBack_shortest (m : Magnitude) : m.ReadsBack m.shortest := by
  rcases m.shortest_cases with exact | ⟨k, -, neighbour⟩
  · rw [exact]
    exact m.readsBack_exactDecimal
  · exact (neighbour?_spec neighbour).1

/-- It has no more places than the exact one: those of the first grid are 323 at most. -/
theorem exponent_shortest_ge (m : Magnitude) : -(unitPlaces : Int) ≤ m.shortest.exponent := by
  rcases m.shortest_cases with exact | ⟨k, few, neighbour⟩
  · rw [exact]
    exact Int.le_refl _
  · have top : -323 ≤ m.topPlace := by
      rw [topPlace, Int.fdiv_eq_ediv_of_nonneg _ (by decide)]
      omega
    rw [(neighbour?_spec neighbour).2, unitPlaces_eq]
    omega

end Magnitude

/-- The text of a finite number is a literal that spells it, with no more places than the unit of
all numbers. -/
theorem Binary64.exists_scaled_chars_within (negative : Bool) {m : Magnitude}
    (finite : m.isFinite = true) :
    ∃ n places, (Literal.ofScaled negative n places).chars = (signed negative m).chars ∧
      Magnitude.nearest n (10 ^ places) = m ∧ places ≤ Magnitude.unitPlaces := by
  obtain ⟨n, places, body, number, within⟩ := m.shortest.exists_scaled_positional negative
  refine ⟨n, places, ?_, ?_, ?_⟩
  · rw [Literal.chars, Literal.signChars, body, chars, magnitudeChars, if_pos finite]
    cases negative <;> rfl
  · rw [number]
    exact m.readsBack_shortest
  · have least := m.exponent_shortest_ge
    omega

/-- In short, the text of a finite number is a literal that spells it. -/
theorem Binary64.exists_scaled_chars (negative : Bool) {m : Magnitude}
    (finite : m.isFinite = true) :
    ∃ n places, (Literal.ofScaled negative n places).chars = (signed negative m).chars ∧
      Magnitude.nearest n (10 ^ places) = m := by
  obtain ⟨n, places, text, number, -⟩ := exists_scaled_chars_within negative finite
  exact ⟨n, places, text, number⟩

end PluralTemplate
