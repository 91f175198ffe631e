import PluralTemplate.Proofs.Value.OwnSpelling

/-!
# Zeros that change nothing

The canonical text of a literal without a fraction is that of a whole number, if it fits a word,
and any other is that of the nearest binary64 number. Zeros in front of the digits change neither,
and zeros behind a fraction do not change the nearest number. A fraction of zeros only makes a whole
number one that is rounded. Its canonical text stays below `2 ^ 53`, and where the rounded number is
written with the same digits, and is another one otherwise (`canonical_zerosBehind_iff`).
-/

set_option autoImplicit false

namespace PluralTemplate

namespace Numeral

theorem value_zeros (count : Nat) : value (List.replicate count '0') = 0 := by
  rw [value, Nat.ofDigitChars_replicate_zero, Nat.mul_zero]

theorem value_zeros_append (count : Nat) (digits : List Char) :
    value (List.replicate count '0' ++ digits) = value digits := by
  rw [value_append, value_zeros, Nat.mul_zero, Nat.zero_add]

theorem value_append_zeros (digits : List Char) (count : Nat) :
    value (digits ++ List.replicate count '0') = value digits * 10 ^ count := by
  rw [value_append, value_zeros, List.length_replicate, Nat.add_zero, Nat.mul_comm]

end Numeral

namespace Quantity

/-- A whole number that keeps its digits when it is given as a binary64 number: it is small enough
to be held as an integer again, or the text of the nearest number has the same digits. -/
def KeepsDigits (n : Int) : Prop :=
  n.natAbs < 2 ^ 53 ∨ (Binary64.ofInt n).chars = integerChars n

theorem keepsDigits_of_le {n : Int} (few : n.natAbs ≤ 2 ^ 53) : KeepsDigits n := by
  rcases Nat.lt_or_eq_of_le few with below | exact
  · exact .inl below
  · obtain rfl | rfl : n = 2 ^ 53 ∨ n = -2 ^ 53 := by omega
    · exact .inr (by decide +kernel)
    · exact .inr (by decide +kernel)

end Quantity

/-! ## Literals -/

namespace Grammar.Literal

open Numeral (FitsWord)

/-- The whole number in front of the point. -/
def integer (l : Literal) : Int := withSign l.negative (Numeral.value l.whole.chars)

theorem isDigits_body_iff (l : Literal) :
    Numeral.isDigits l.body = true ↔ l.fraction = none := by
  rw [Numeral.isDigits, Bool.and_eq_true, List.all_eq_true]
  constructor
  · rintro ⟨-, digits⟩
    cases behind : l.fraction with
    | none => rfl
    | some d =>
      have point : '.' ∈ l.body := by simp [body, fractionChars, behind]
      cases digits '.' point
  · intro behind
    have whole : l.body = l.whole.chars := by simp [body, fractionChars, behind]
    rw [whole]
    exact ⟨by simpa using l.whole.nonempty, l.whole.digit⟩

/-- A literal is read as a whole number if it has no fraction and fits a word. -/
theorem integer?_chars (l : Literal) :
    Numeral.integer? l.chars =
      if l.fraction = none ∧ FitsWord l.integer then some (Int64.ofInt l.integer) else none := by
  simp only [Numeral.integer?, splitSign_chars, isDigits_body_iff]
  by_cases whole : l.fraction = none
  · have digits : l.body = l.whole.chars := by simp [body, fractionChars, whole]
    simp only [whole, digits, true_and, if_true]
    rfl
  · simp only [whole, false_and, if_false]

theorem integer?_of_fraction {l : Literal} (visible : l.fraction ≠ none) :
    Numeral.integer? l.chars = none := by
  rw [integer?_chars, if_neg fun read => visible read.1]

theorem value_eq_nearest (l : Literal) :
    l.value = .signed l.negative
      (Magnitude.nearest (Numeral.value (l.whole.chars ++ l.places)) (10 ^ l.places.length)) := by
  rw [value, Decimal.toMagnitude_eq_nearest, Decimal.numerator_mk_neg, Decimal.denominator_mk_neg]

/-- Zeros behind the last place spell the same number. -/
theorem value_eq_of_zeros {l m : Literal} (sign : l.negative = m.negative)
    (whole : l.whole = m.whole) {count : Nat}
    (places : l.places = m.places ++ List.replicate count '0') : l.value = m.value := by
  have positive : ∀ places, 0 < 10 ^ places := fun _ => Nat.pow_pos (by decide)
  rw [value_eq_nearest, value_eq_nearest, sign, whole, places, ← List.append_assoc,
    Numeral.value_append_zeros, List.length_append, List.length_replicate]
  refine congrArg (Binary64.signed _) (Magnitude.nearest_eq_of_ratio (positive _) (positive _) ?_)
  rw [pow_add, Nat.mul_assoc, Nat.mul_comm (10 ^ count)]

theorem parse?_chars (l : Literal) :
    Quantity.parse? (String.ofList l.chars) =
      match Numeral.integer? l.chars with
      | some n => some (.integer n)
      | none => Quantity.ofBinary64? l.value := by
  have visible := l.isWhiteSpace_of_mem_chars
  cases read : Numeral.integer? l.chars with
  | some n => exact Quantity.parse?_of_integer visible read
  | none => exact Quantity.parse?_of_binary64 visible read (binary64?_chars l)

/-- The canonical text of a literal. -/
def canonical (l : Literal) : String := Quantity.canonicalLiteral (String.ofList l.chars)

/-- A literal spells a quantity, whose canonical text it has. -/
theorem exists_quantity (l : Literal) :
    ∃ q, Quantity.parse? (String.ofList l.chars) = some q ∧ q.canonical = l.canonical := by
  obtain ⟨q, parsed⟩ : ∃ q, Quantity.parse? (String.ofList l.chars) = some q := by
    rw [parse?_chars]
    cases Numeral.integer? l.chars with
    | some n => exact ⟨_, rfl⟩
    | none => exact Quantity.exists_ofBinary64? Binary64.noConfusion
  refine ⟨q, parsed, ?_⟩
  rw [canonical, Quantity.canonicalLiteral, parsed]

/-- The canonical text goes by the whole number that is read, if any, and by the value. -/
theorem canonical_congr {l m : Literal}
    (integers : Numeral.integer? l.chars = Numeral.integer? m.chars) (values : l.value = m.value) :
    l.canonical = m.canonical := by
  obtain ⟨q, parsed, canonical⟩ := l.exists_quantity
  obtain ⟨p, otherParsed, otherCanonical⟩ := m.exists_quantity
  rw [parse?_chars, integers, values, ← parse?_chars, otherParsed] at parsed
  rw [← canonical, ← otherCanonical, Option.some.inj parsed]

/-- A whole number that fits a word is its own canonical text. -/
theorem canonical_of_fits {l : Literal} (whole : l.fraction = none) (fits : FitsWord l.integer) :
    l.canonical = String.ofList (Quantity.integerChars l.integer) := by
  rw [canonical, Quantity.canonicalLiteral, parse?_chars, integer?_chars, if_pos ⟨whole, fits⟩]
  change String.ofList (Quantity.integerChars (Int64.ofInt l.integer).toInt) = _
  rw [Numeral.toInt_ofInt_of_fitsWord fits]

theorem natAbs_integer (l : Literal) : l.integer.natAbs = Numeral.value l.whole.chars := by
  unfold integer withSign
  split <;> omega

theorem value_of_whole {l : Literal} (whole : l.fraction = none) :
    l.value = .signed l.negative (Magnitude.nearest (Numeral.value l.whole.chars) 1) := by
  have places : l.places = [] := by simp [Literal.places, whole]
  rw [value_eq_nearest, places, List.append_nil, List.length_nil, pow_zero]

/-- A whole number other than zero is rounded as the integer is. -/
theorem value_eq_ofInt {l : Literal} (whole : l.fraction = none)
    (some : 0 < Numeral.value l.whole.chars) : l.value = .ofInt l.integer := by
  have sign : decide (l.integer < 0) = l.negative := by
    unfold integer withSign
    cases l.negative with
    | false => simp
    | true => simpa using some
  rw [value_of_whole whole, Binary64.ofInt, sign, natAbs_integer]

/-- A literal with a fraction has the canonical text of its value. -/
theorem canonical_of_value {l : Literal} {q : Quantity} (visible : l.fraction ≠ none)
    (held : Quantity.ofBinary64? l.value = some q) : l.canonical = q.canonical := by
  rw [canonical, Quantity.canonicalLiteral, parse?_chars, integer?_of_fraction visible, held]

/-- A fraction that does not change the value of a whole number keeps its canonical text if the
number fits no word, as it is rounded anyway, or keeps its digits when it is rounded. -/
theorem canonical_eq_iff_of_fraction {l m : Literal} (whole : l.fraction = none)
    (visible : m.fraction ≠ none) (values : m.value = l.value) :
    m.canonical = l.canonical ↔ ¬ FitsWord l.integer ∨ Quantity.KeepsDigits l.integer := by
  by_cases fits : FitsWord l.integer
  · have rounded := Binary64.smallInteger?_nearest l.negative (Numeral.value l.whole.chars)
    rw [← value_of_whole whole, ← values] at rounded
    have exact := canonical_of_fits whole fits
    have size := natAbs_integer l
    by_cases small : l.integer.natAbs < 2 ^ 53
    · rw [if_pos (size ▸ small)] at rounded
      have kept := canonical_of_value visible (Quantity.ofBinary64?_of_some rounded)
      refine iff_of_true (kept.trans ?_) (.inr (.inl small))
      rw [exact, Quantity.canonical, Quantity.canonicalChars]
      exact congrArg (fun n => String.ofList (Quantity.integerChars n))
        (Numeral.toInt_ofInt_of_fitsWord fits)
    · rw [if_neg (size ▸ small)] at rounded
      have isNumber : m.value ≠ .nan := Binary64.noConfusion
      have kept := canonical_of_value visible (Quantity.ofBinary64?_of_none isNumber rounded)
      have number : m.value = .ofInt l.integer := values.trans (value_eq_ofInt whole (by omega))
      rw [kept, exact, Quantity.canonical, Quantity.canonicalChars, String.ofList_inj, number]
      constructor
      · exact fun same => .inr (.inr same)
      · rintro (large | below | same)
        · exact absurd fits large
        · exact absurd below small
        · exact same
  · have noInteger : Numeral.integer? m.chars = Numeral.integer? l.chars := by
      rw [integer?_of_fraction visible, integer?_chars, if_neg fun read => fits read.2]
    exact iff_of_true (canonical_congr noInteger values) (.inl fits)

/-! ### Literals with zeros -/

/-- The literal with zeros in front of its digits. -/
def zerosBefore (count : Nat) (l : Literal) : Literal where
  negative := l.negative
  whole := ⟨List.replicate count '0' ++ l.whole.chars, by simp [l.whole.nonempty], by
    simpa [or_imp, forall_and] using l.whole.digit⟩
  fraction := l.fraction

theorem chars_zerosBefore (count : Nat) (l : Literal) :
    (l.zerosBefore count).chars =
      signChars l.negative ++ List.replicate count '0' ++ l.body := by
  simp [chars, body, fractionChars, zerosBefore]

theorem value_whole_zerosBefore (count : Nat) (l : Literal) :
    Numeral.value (l.zerosBefore count).whole.chars = Numeral.value l.whole.chars :=
  Numeral.value_zeros_append count _

theorem value_zerosBefore (count : Nat) (l : Literal) : (l.zerosBefore count).value = l.value := by
  have places : (l.zerosBefore count).places = l.places := rfl
  have digits : Numeral.value ((l.zerosBefore count).whole.chars ++ l.places) =
      Numeral.value (l.whole.chars ++ l.places) := by
    rw [Numeral.value_append, Numeral.value_append, value_whole_zerosBefore]
  rw [value_eq_nearest, value_eq_nearest, places, digits]
  rfl

theorem canonical_zerosBefore (count : Nat) (l : Literal) :
    (l.zerosBefore count).canonical = l.canonical := by
  have integer : (l.zerosBefore count).integer = l.integer :=
    congrArg (fun size : Nat => withSign l.negative size) (value_whole_zerosBefore count l)
  refine canonical_congr ?_ (value_zerosBefore count l)
  rw [integer?_chars, integer?_chars, integer]
  rfl

theorem isDigit_of_mem_places (l : Literal) {c : Char} (member : c ∈ l.places) :
    c.isDigit = true := by
  unfold places at member
  split at member
  · cases member
  · rename_i digits _
    exact digits.digit c member

/-- The literal with one more zero than the count behind the point, which is put if there is
none. -/
def zerosBehind (count : Nat) (l : Literal) : Literal where
  negative := l.negative
  whole := l.whole
  fraction := some ⟨l.places ++ List.replicate (count + 1) '0', by simp, by
    intro c member
    rcases List.mem_append.1 member with digit | zero
    · exact l.isDigit_of_mem_places digit
    · rw [List.eq_of_mem_replicate zero]
      rfl⟩

theorem chars_zerosBehind_of_fraction (count : Nat) {l : Literal} (visible : l.fraction ≠ none) :
    (l.zerosBehind count).chars = l.chars ++ List.replicate (count + 1) '0' := by
  obtain ⟨digits, fraction⟩ := Option.ne_none_iff_exists'.1 visible
  simp [chars, body, fractionChars, places, zerosBehind, fraction]

theorem chars_zerosBehind_of_whole (count : Nat) {l : Literal} (whole : l.fraction = none) :
    (l.zerosBehind count).chars = l.chars ++ '.' :: List.replicate (count + 1) '0' := by
  simp [chars, body, fractionChars, places, zerosBehind, whole]

theorem value_zerosBehind (count : Nat) (l : Literal) : (l.zerosBehind count).value = l.value :=
  value_eq_of_zeros rfl rfl rfl

theorem canonical_zerosBehind (count : Nat) {l : Literal} (visible : l.fraction ≠ none) :
    (l.zerosBehind count).canonical = l.canonical := by
  refine canonical_congr ?_ (value_zerosBehind count l)
  rw [integer?_of_fraction visible, integer?_of_fraction (Option.some_ne_none _)]

theorem canonical_zerosBehind_iff (count : Nat) {l : Literal} (whole : l.fraction = none) :
    (l.zerosBehind count).canonical = l.canonical ↔
      ¬ FitsWord l.integer ∨ Quantity.KeepsDigits l.integer :=
  canonical_eq_iff_of_fraction whole (Option.some_ne_none _) (value_zerosBehind count l)

end Grammar.Literal

/-! ## Keys -/

namespace Quantity

open Grammar (Literal)

/-- The literal that an integer is written as. -/
def literal (n : Int64) : Literal := .ofScaled (n.toInt < 0) n.toInt.natAbs 0

theorem ofList_chars_literal (n : Int64) :
    String.ofList (literal n).chars = (integer n).canonical :=
  congrArg String.ofList (Literal.integerChars_eq n.toInt).symm

theorem integer_literal (n : Int64) : (literal n).integer = n.toInt := by
  have whole : (literal n).whole.chars = (literal n).body := (List.append_nil _).symm
  have digits : Numeral.value (literal n).whole.chars = n.toInt.natAbs := by
    rw [whole, literal, Literal.body_ofScaled_zero, Decimal.value_digits]
  rw [Literal.integer, digits]
  exact withSign_natAbs n.toInt

theorem canonical_literal (n : Int64) : (literal n).canonical = (integer n).canonical := by
  have parsed : parse? (integer n).canonical = some (integer n) := parse?_integerChars n
  rw [Literal.canonical, ofList_chars_literal, canonicalLiteral, parsed]

theorem ofText_integer (n : Int64) {t : String} (start : StartsOutside Text.isBlank t.toList) :
    Part.ofText ("\x7b" ++ (integer n).canonical ++ "\x7d" ++ t) =
      .explicit [(integer n).canonical] t :=
  calc Part.ofText ("\x7b" ++ (integer n).canonical ++ "\x7d" ++ t)
    _ = .explicit [(literal n).canonical] t := by
      rw [← ofList_chars_literal]
      exact Part.ofText_of_literal (literal n) start
    _ = .explicit [(integer n).canonical] t := by rw [canonical_literal]

/-- With `.0` behind it, an integer is bound to its own key if it keeps its digits. -/
theorem ofText_pointZero_iff (n : Int64) {t : String}
    (start : StartsOutside Text.isBlank t.toList) :
    Part.ofText ("\x7b" ++ ((integer n).canonical ++ ".0") ++ "\x7d" ++ t) =
      .explicit [(integer n).canonical] t ↔ KeepsDigits n.toInt := by
  have written : (integer n).canonical ++ ".0" =
      String.ofList ((literal n).zerosBehind 0).chars := by
    rw [Literal.chars_zerosBehind_of_whole 0 rfl, String.ofList_append, ofList_chars_literal]
    rfl
  have part : Part.ofText ("\x7b" ++ ((integer n).canonical ++ ".0") ++ "\x7d" ++ t) =
      .explicit [((literal n).zerosBehind 0).canonical] t := by
    rw [written]
    exact Part.ofText_of_literal _ start
  have fits := Numeral.fitsWord_toInt n
  have kept := Literal.canonical_zerosBehind_iff 0 (l := literal n) rfl
  rw [canonical_literal, integer_literal] at kept
  rw [part, Part.explicit.injEq, List.singleton_inj, kept]
  constructor
  · rintro ⟨large | keeps, -⟩
    · exact absurd fits large
    · exact keeps
  · exact fun keeps => ⟨.inr keeps, rfl⟩

/-- Zeros in front of the digits and zeros behind a fraction change no canonical text. A fraction of
zeros behind a whole number keeps it if the number fits no word or keeps its digits as a binary64
number. So an integer `n` is bound to the same key by `n` and by `n.0` if it keeps its digits, which
those do that are not above `2 ^ 53` in size. -/
theorem canonicalLiteral_zeros :
    (∀ (l : Literal) (count : Nat),
      canonicalLiteral (String.ofList
          (Literal.signChars l.negative ++ List.replicate count '0' ++ l.body)) =
        canonicalLiteral (String.ofList l.chars)) ∧
    (∀ (l : Literal) (count : Nat), l.fraction ≠ none →
      canonicalLiteral (String.ofList (l.chars ++ List.replicate count '0')) =
        canonicalLiteral (String.ofList l.chars)) ∧
    (∀ (l : Literal) (count : Nat), l.fraction = none →
      (canonicalLiteral (String.ofList (l.chars ++ '.' :: List.replicate (count + 1) '0')) =
          canonicalLiteral (String.ofList l.chars) ↔
        ¬ Numeral.FitsWord l.integer ∨ KeepsDigits l.integer)) ∧
    (∀ (n : Int64) (t : String), StartsOutside Text.isBlank t.toList →
      Part.ofText ("\x7b" ++ (integer n).canonical ++ "\x7d" ++ t) =
          .explicit [(integer n).canonical] t ∧
        (Part.ofText ("\x7b" ++ ((integer n).canonical ++ ".0") ++ "\x7d" ++ t) =
          .explicit [(integer n).canonical] t ↔ KeepsDigits n.toInt)) ∧
    ∀ n : Int, n.natAbs ≤ 2 ^ 53 → KeepsDigits n := by
  refine ⟨fun l count => ?_, fun l count visible => ?_, fun l count whole => ?_,
    fun n t start => ⟨ofText_integer n start, ofText_pointZero_iff n start⟩,
    fun n few => keepsDigits_of_le few⟩
  · rw [← Literal.chars_zerosBefore]
    exact Literal.canonical_zerosBefore count l
  · cases count with
    | zero => rw [List.replicate_zero, List.append_nil]
    | succ count =>
      rw [← Literal.chars_zerosBehind_of_fraction count visible]
      exact Literal.canonical_zerosBehind count visible
  · rw [← Literal.chars_zerosBehind_of_whole count whole]
    exact Literal.canonical_zerosBehind_iff count whole

/-- `2 ^ 53 + 1` is rounded, and so is bound to another key once `.0` stands behind it. -/
theorem canonicalLiteral_pointZero_rounded :
    canonicalLiteral "9007199254740993" = "9007199254740993" ∧
      canonicalLiteral "9007199254740993.0" = "9007199254740992" ∧
      Part.ofText "\x7b9007199254740993.0\x7dhit" = .explicit ["9007199254740992"] "hit" ∧
      (VariantSet.ofTemplate "other|\x7b9007199254740993.0\x7dhit" "|").select
        (.integer 9007199254740993) "en" .standard = "other" := by
  decide +kernel

end Quantity

end PluralTemplate
