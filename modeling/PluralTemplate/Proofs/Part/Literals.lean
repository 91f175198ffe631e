import PluralTemplate.Proofs.Part.Grammar

/-!
# Literals and bounds are read by the grammar

The readers of blanks, literals and bounds read the symbols of these names. A literal or a
bound is taken as a whole because what follows it in a rule, a blank or a mark, is no character
that it is written with: digits and a fraction are taken as far as they go, and `-Inf` cannot be
mistaken for the start of a literal. Every literal spells a number (`binary64?_chars`).
-/

set_option autoImplicit false

namespace PluralTemplate.Grammar

open Reader
open Text (isBlank)

/-! ## The numbers that are written -/

namespace Literal

/-- The digits behind the point. -/
def places (l : Literal) : List Char :=
  match l.fraction with
  | none => []
  | some digits => digits.chars

/-- The number nearest to the literal. -/
def value (l : Literal) : Binary64 :=
  .signed l.negative
    (Decimal.toMagnitude ⟨Numeral.value (l.whole.chars ++ l.places), -(l.places.length : Int)⟩)

end Literal

def LowerBound.value : LowerBound → Binary64
  | minusInfinity => .signed true .infinity
  | literal l => l.value

def UpperBound.value : UpperBound → Binary64
  | infinity _ => .signed false .infinity
  | literal l => l.value

/-! ## Blanks and digits -/

theorem reads_blanks :
    Reads Part.blanks Blanks.chars (fun _ => ()) (StartsOutside isBlank) where
  sound read := by
    obtain ⟨run, taken⟩ := run_discard_iff.1 read
    obtain ⟨blank, -, whole⟩ := run_span_sound taken
    exact ⟨⟨run, blank⟩, whole, rfl⟩
  complete blanks _ ends := run_discard_of (run_span_run blanks.blank ends)

/-- Behind blanks that were read stands no further one. -/
theorem startsOutside_of_blanks {text rest : List Char} {u : Unit}
    (read : Part.blanks.run text = some (u, rest)) : StartsOutside isBlank rest := by
  obtain ⟨run, taken⟩ := run_discard_iff.1 read
  exact (run_span_sound taken).2.1

theorem reads_digits :
    Reads Part.digits Digits.chars Digits.chars (StartsOutside Char.isDigit) where
  sound read := by
    obtain ⟨run, between, taken, read⟩ := run_bind_iff.1 read
    obtain ⟨digit, -, whole⟩ := run_span_sound taken
    split at read
    · cases read
    · rename_i nonempty
      obtain ⟨rfl, rfl⟩ := run_pure_iff.1 read
      exact ⟨⟨run, by simpa using nonempty, digit⟩, whole, rfl⟩
  complete digits rest ends := by
    refine (run_bind_of (run_span_run digits.digit ends) _).trans ?_
    rw [if_neg (by simpa using digits.nonempty)]
    rfl

theorem reads_fraction :
    Reads Part.fraction (fun d : Digits => '.' :: d.chars) (fun d => '.' :: d.chars)
      (StartsOutside Char.isDigit) where
  sound read := by
    simp only [Part.fraction, run_bind_iff, run_one_iff, run_pure_iff] at read
    obtain ⟨point, between, ⟨isPoint, rfl⟩, digits, last, digitsRead, rfl, rfl⟩ := read
    obtain ⟨d, rfl, rfl⟩ := reads_digits.sound digitsRead
    obtain rfl : point = '.' := beq_iff_eq.1 isPoint
    exact ⟨d, rfl, rfl⟩
  complete d rest ends := by
    refine (run_bind_of (run_one_cons rfl _) _).trans ?_
    exact (run_bind_of (reads_digits.complete d ends) _).trans rfl

/-! ## Literals and bounds -/

/-- Where a literal or a bound ends. -/
def Ends (rest : List Char) : Prop := StartsOutside isInert rest

theorem Ends.digits {rest : List Char} (ends : Ends rest) : StartsOutside Char.isDigit rest :=
  StartsOutside.mono ends fun _ => isInert_of_isDigit

theorem Ends.fraction_none {rest : List Char} (ends : Ends rest) :
    Part.fraction.run rest = none := by
  refine run_bind_none (run_one_none (StartsOutside.mono ends ?_)) _
  intro c isPoint
  obtain rfl : c = '.' := beq_iff_eq.1 isPoint
  rfl

namespace Literal

theorem sign_sound {text rest : List Char} {mark : Option Char}
    (read : (optional (one (· == '-'))).run text = some (mark, rest)) :
    ∃ negative, signChars negative ++ rest = text ∧ signChars negative = mark.toList := by
  rcases run_optional_cases read with ⟨c, taken, rfl⟩ | ⟨rfl, rfl⟩
  · obtain ⟨isMinus, rfl⟩ := run_one_iff.1 taken
    obtain rfl : c = '-' := beq_iff_eq.1 isMinus
    exact ⟨true, rfl, rfl⟩
  · exact ⟨false, rfl, rfl⟩

theorem sign_complete (l : Literal) (rest : List Char) :
    ∃ mark : Option Char, (optional (one (· == '-'))).run (l.chars ++ rest) =
      some (mark, l.whole.chars ++ (l.fractionChars ++ rest)) ∧
        mark.toList = signChars l.negative := by
  unfold chars body signChars
  simp only [List.append_assoc]
  split
  · exact ⟨some '-', run_optional_of_some (run_one_cons rfl _), rfl⟩
  · refine ⟨none, run_optional_of_none (run_one_none ?_), rfl⟩
    refine startsOutside_append l.whole.nonempty (fun c member => ?_) _
    rw [beq_eq_false_iff_ne]
    rintro rfl
    cases l.whole.digit '-' member

theorem fraction_complete (l : Literal) {rest : List Char} (ends : Ends rest) :
    (optional Part.fraction).run (l.fractionChars ++ rest) =
      some (l.fraction.map fun d => '.' :: d.chars, rest) := by
  unfold fractionChars
  split
  · rename_i absent
    rw [absent]
    exact run_optional_of_none ends.fraction_none
  · rename_i d present
    rw [present]
    exact run_optional_of_some (reads_fraction.complete d ends.digits)

theorem getD_fraction (l : Literal) :
    (l.fraction.map fun d => '.' :: d.chars).getD [] = l.fractionChars := by
  unfold fractionChars
  split <;> simp_all

end Literal

theorem reads_literal : Reads Part.literal Literal.chars Literal.chars Ends where
  sound read := by
    simp only [Part.literal, run_bind_iff, run_pure_iff] at read
    obtain ⟨mark, _, signRead, whole, _, wholeRead, behind, _, behindRead, rfl, rfl⟩ := read
    obtain ⟨negative, rfl, mark_eq⟩ := Literal.sign_sound signRead
    obtain ⟨digits, rfl, rfl⟩ := reads_digits.sound wholeRead
    rw [← mark_eq]
    rcases run_optional_cases behindRead with ⟨_, fractionRead, rfl⟩ | ⟨rfl, rfl⟩
    · obtain ⟨d, rfl, rfl⟩ := reads_fraction.sound fractionRead
      refine ⟨⟨negative, digits, some d⟩, ?_, ?_⟩ <;>
        simp [Literal.chars, Literal.body, Literal.fractionChars]
    · refine ⟨⟨negative, digits, none⟩, ?_, ?_⟩ <;>
        simp [Literal.chars, Literal.body, Literal.fractionChars]
  complete l rest ends := by
    obtain ⟨mark, signRead, mark_eq⟩ := l.sign_complete rest
    have behindWhole : StartsOutside Char.isDigit (l.fractionChars ++ rest) := by
      unfold Literal.fractionChars
      split
      · exact ends.digits
      · exact startsOutside_point _
    refine (run_bind_of signRead _).trans ?_
    refine (run_bind_of (reads_digits.complete l.whole behindWhole) _).trans ?_
    refine (run_bind_of (l.fraction_complete ends) _).trans ?_
    rw [l.getD_fraction, mark_eq, List.append_assoc]
    rfl

section Numbers

theorem toLower_of_isDigit {c : Char} (digit : c.isDigit = true) : c.toLower = c := by
  have range : 48 ≤ c.toNat ∧ c.toNat ≤ 57 := Char.isDigit_iff_toNat.1 digit
  unfold Char.toLower
  rw [dif_neg]
  rintro ⟨atLeast, -⟩
  have letter : 65 ≤ c.toNat := UInt32.le_iff_toNat_le.1 atLeast
  omega

theorem splitSign_chars (l : Literal) : Numeral.splitSign l.chars = (l.negative, l.body) := by
  unfold Literal.chars Literal.signChars
  split
  · rename_i negative
    rw [negative]
    rfl
  · rename_i positive
    obtain ⟨c, rest, digit, cons⟩ := l.exists_body_eq_cons
    rw [Bool.not_eq_true] at positive
    have noMinus : c ≠ '-' := by
      rintro rfl
      cases digit
    have noPlus : c ≠ '+' := by
      rintro rfl
      cases digit
    rw [positive, List.nil_append, cons, Numeral.splitSign]
    · rintro _ same
      exact noMinus (List.cons.inj same).1
    · rintro _ same
      exact noPlus (List.cons.inj same).1

theorem splitFraction_fractionChars (l : Literal) :
    Numeral.splitFraction l.fractionChars = (l.places, []) := by
  unfold Literal.fractionChars Literal.places
  cases l.fraction with
  | none => rfl
  | some digits =>
    have taken := takeWhile_run digits.digit (startsOutside_nil _)
    have dropped := dropWhile_run digits.digit (startsOutside_nil _)
    rw [List.append_nil] at taken dropped
    rw [Numeral.splitFraction, taken, dropped]

theorem decimal?_body (l : Literal) : Numeral.decimal? l.body =
    some ⟨Numeral.value (l.whole.chars ++ l.places), -(l.places.length : Int)⟩ := by
  have nonempty : ¬ (l.whole.chars ++ l.places).isEmpty = true := by
    simp [l.whole.nonempty]
  simp only [Numeral.decimal?, l.takeWhile_body, l.dropWhile_body, splitFraction_fractionChars,
    if_neg nonempty, Numeral.exponent?, Option.map_some, Int.zero_sub]

/-- A literal is no word, in whatever letter case. -/
theorem map_toLower_body_ne (l : Literal) {letter : Char} (noDigit : letter.isDigit = false)
    (word : List Char) : l.body.map Char.toLower ≠ letter :: word := by
  obtain ⟨c, rest, digit, cons⟩ := l.exists_body_eq_cons
  rw [cons, List.map_cons, toLower_of_isDigit digit]
  intro same
  rw [(List.cons.inj same).1, noDigit] at digit
  cases digit

/-- A literal spells a number: it is neither a name nor too short for one. -/
theorem binary64?_chars (l : Literal) : Numeral.binary64? l.chars = some l.value := by
  have infinities : ¬ (l.body.map Char.toLower = "inf".toList ∨
      l.body.map Char.toLower = "infinity".toList) := by
    rintro (short | long)
    · exact map_toLower_body_ne l rfl ['n', 'f'] short
    · exact map_toLower_body_ne l rfl ['n', 'f', 'i', 'n', 'i', 't', 'y'] long
  have noNumber : ¬ l.body.map Char.toLower = "nan".toList :=
    map_toLower_body_ne l rfl ['a', 'n']
  simp only [Numeral.binary64?, splitSign_chars, if_neg infinities, if_neg noNumber,
    decimal?_body, Option.map_some, Literal.value]

end Numbers

theorem reads_decimal : Reads Part.decimal Literal.chars Literal.value Ends where
  sound read := by
    simp only [Part.decimal, run_bind_iff, run_lift_iff] at read
    obtain ⟨_, _, literalRead, number, rfl⟩ := read
    obtain ⟨l, rfl, rfl⟩ := reads_literal.sound literalRead
    rw [binary64?_chars] at number
    exact ⟨l, rfl, Option.some.inj number⟩
  complete l rest ends := by
    refine (run_bind_of (reads_literal.complete l ends) _).trans ?_
    exact run_lift_iff.2 ⟨binary64?_chars l, rfl⟩

theorem reads_lowerBound : Reads Part.lowerBound LowerBound.chars LowerBound.value Ends where
  sound read := by
    rcases run_orElse_cases read with infinity | number
    · simp only [run_bind_iff, run_pure_iff] at infinity
      obtain ⟨_, _, wordRead, rfl, rfl⟩ := infinity
      exact ⟨.minusInfinity, run_word_sound wordRead, rfl⟩
    · obtain ⟨l, whole, value⟩ := reads_decimal.sound number
      exact ⟨.literal l, whole, value⟩
  complete bound rest ends := by
    cases bound with
    | minusInfinity =>
      refine run_orElse_of_some ?_ _
      exact (run_bind_of (run_word_append ['-', 'I', 'n', 'f'] rest) _).trans rfl
    | literal l =>
      refine (run_orElse_of_none ?_ _).trans (reads_decimal.complete l ends)
      refine run_bind_none (run_word_none fun tail same => ?_) _
      exact (l.chars_append_ne_of_letter rfl (by decide) rest _).2 same.symm

theorem reads_upperBound : Reads Part.upperBound UpperBound.chars UpperBound.value Ends where
  sound read := by
    rcases run_orElse_cases read with infinity | number
    · simp only [run_bind_iff, run_discard_iff, run_pure_iff] at infinity
      obtain ⟨_, _, ⟨sign, signRead⟩, _, _, wordRead, rfl, rfl⟩ := infinity
      obtain rfl := run_word_sound wordRead
      rcases run_optional_cases signRead with ⟨c, taken, -⟩ | ⟨-, rfl⟩
      · obtain ⟨isPlus, rfl⟩ := run_one_iff.1 taken
        obtain rfl : c = '+' := beq_iff_eq.1 isPlus
        exact ⟨.infinity true, rfl, rfl⟩
      · exact ⟨.infinity false, rfl, rfl⟩
    · obtain ⟨l, whole, value⟩ := reads_decimal.sound number
      exact ⟨.literal l, whole, value⟩
  complete bound rest ends := by
    cases bound with
    | infinity plus =>
      refine run_orElse_of_some ?_ _
      cases plus with
      | true =>
        refine (run_bind_of (run_discard_of (run_optional_of_some (run_one_cons rfl _))) _).trans ?_
        exact (run_bind_of (run_word_append ['I', 'n', 'f'] rest) _).trans rfl
      | false =>
        have noSign : (one (· == '+')).run ('I' :: 'n' :: 'f' :: rest) = none :=
          run_one_none (startsOutside_cons rfl _)
        refine (run_bind_of (run_discard_of (run_optional_of_none noSign)) _).trans ?_
        exact (run_bind_of (run_word_append ['I', 'n', 'f'] rest) _).trans rfl
    | literal l =>
      refine (run_orElse_of_none ?_ _).trans (reads_decimal.complete l ends)
      have noSign : (one (· == '+')).run (l.chars ++ rest) = none := by
        refine run_one_none fun c head => ?_
        obtain ⟨tail, same⟩ := List.head?_eq_some_iff.1 head
        rw [beq_eq_false_iff_ne]
        rintro rfl
        exact (l.chars_append_ne_of_letter rfl (by decide) rest tail).1 same
      refine (run_bind_of (run_discard_of (run_optional_of_none noSign)) _).trans ?_
      refine run_bind_none (run_word_none fun tail same => ?_) _
      exact (l.chars_append_ne_of_letter rfl (by decide) rest _).1 same.symm

end PluralTemplate.Grammar
