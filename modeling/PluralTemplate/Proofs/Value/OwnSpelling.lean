import PluralTemplate.Proofs.Part.Reading
import PluralTemplate.Proofs.Quantity.Canonical
import PluralTemplate.Proofs.Selection.ByParts
import PluralTemplate.Value

/-!
# A number matches its own spelling

A rule and a value reach canonical texts by different ways: the rule reads a literal, and the value
holds a number that it was given as a word of some type. Here the two are shown to meet. Every
finite number of the four types is spelled by its text, and a whole number by its digits as well
even where its value has to round it (`exists_quantity_spelled`), so a part that lists such a
spelling is selected for the number (`own_spelling_selects`).

An infinite number is spelled `inf`, which is no literal, so no list can hold it.
-/

set_option autoImplicit false

namespace PluralTemplate

open Grammar (Literal ListRule Blanks)
open Quantity (ofBinary64?)

theorem Binary64.ofInt_natCast (n : Nat) : ofInt n = signed false (Magnitude.nearest n 1) := by
  rw [ofInt, Int.natAbs_natCast, decide_eq_false (Int.not_lt.2 (Int.natCast_nonneg n))]

/-! ## Spellings of a quantity -/

/-- The text is a literal, and has the canonical text of the quantity. -/
def Spells (s : String) (q : Quantity) : Prop :=
  (∃ l : Literal, String.ofList l.chars = s) ∧ Quantity.canonicalLiteral s = q.canonical

theorem spells_integer (n : Int64) :
    Spells (String.ofList (Quantity.integerChars n.toInt)) (.integer n) := by
  refine ⟨⟨_, congrArg String.ofList (Literal.integerChars_eq n.toInt).symm⟩, ?_⟩
  rw [Quantity.canonicalLiteral, Quantity.parse?_integerChars]

theorem spells_binary64 {x : Binary64} {q : Quantity} (finite : x.isFinite = true)
    (held : ofBinary64? x = some q) : Spells x.text q := by
  cases x with
  | nan => cases finite
  | signed negative m =>
    obtain ⟨n, places, text, -⟩ := Binary64.exists_scaled_chars negative finite
    obtain ⟨r, parsed, canonical⟩ := Quantity.parse?_text Binary64.noConfusion held
    refine ⟨⟨_, congrArg String.ofList text⟩, ?_⟩
    rw [Quantity.canonicalLiteral, parsed]
    exact canonical

/-- The digits of a whole number that fits no word are read as the number is rounded. -/
theorem spells_digits {n : Nat} {q : Quantity} (large : ¬ Numeral.FitsWord n)
    (held : ofBinary64? (.ofInt n) = some q) : Spells (String.ofList (Decimal.digits n)) q := by
  have digits : (Literal.ofScaled false n 0).chars = Decimal.digits n := by
    rw [Literal.chars, Literal.body_ofScaled_zero]
    exact List.nil_append _
  have noInteger : Numeral.integer? (Literal.ofScaled false n 0).chars = none := by
    rw [Literal.integer?_ofScaled]
    exact if_neg fun whole => large whole.2
  have rounded : Numeral.binary64? (Literal.ofScaled false n 0).chars = some (.ofInt n) := by
    rw [Grammar.binary64?_chars, Literal.value_ofScaled, pow_zero, Binary64.ofInt_natCast]
  have parsed := Quantity.parse?_of_binary64 (Literal.isWhiteSpace_of_mem_chars _) noInteger rounded
  refine ⟨⟨_, congrArg String.ofList digits⟩, ?_⟩
  rw [← digits, Quantity.canonicalLiteral, parsed, held]

/-! ## Parts that list a spelling -/

/-- Texts with commas between them. -/
theorem toList_intercalate_comma (first : String) (more : List String) :
    (String.intercalate "," (first :: more)).toList =
      first.toList ++ more.flatMap fun text => ',' :: text.toList := by
  induction more generalizing first with
  | nil => simp
  | cons next more ih =>
    rw [String.intercalate_cons_cons, String.toList_append, ih]
    simp

namespace Grammar

def Blanks.none : Blanks := ⟨[], fun _ absent => by cases absent⟩

/-- A list without blanks. -/
def ListRule.bare (first : Literal) (more : List Literal) : ListRule :=
  ⟨.none, first, more.map fun l => ⟨.none, .none, l⟩, .none⟩

theorem ListRule.chars_bare (first : Literal) (more : List Literal) :
    (bare first more).chars =
      '{' :: (String.intercalate "," ((first :: more).map fun l => String.ofList l.chars)).toList ++
        ['}'] := by
  rw [List.map_cons, toList_intercalate_comma]
  simp [bare, chars, Following.chars, Blanks.none, List.flatMap_map]

theorem ListRule.values_bare (first : Literal) (more : List Literal) :
    (bare first more).values =
      (first :: more).map fun l => Quantity.canonicalLiteral (String.ofList l.chars) := by
  simp [bare, values, Function.comp_def]

end Grammar

/-- A text behind a list. -/
theorem Part.ofText_of_literals (first : Literal) (more : List Literal) {t : String}
    (start : StartsOutside Text.isBlank t.toList) :
    ofText ("\x7b" ++ String.intercalate "," ((first :: more).map fun l => String.ofList l.chars) ++
        "\x7d" ++ t) =
      .explicit ((first :: more).map fun l => Quantity.canonicalLiteral (String.ofList l.chars))
        t := by
  refine Grammar.ofText_eq_explicit_iff.2
    ⟨.bare first more, .none, ⟨t.toList, start⟩, ?_, ListRule.values_bare first more,
      String.ofList_toList⟩
  rw [ListRule.chars_bare]
  simp only [String.toList_append, Blanks.none, List.append_nil]
  rfl

/-- A text behind a list of one literal. -/
theorem Part.ofText_of_literal (l : Literal) {t : String}
    (start : StartsOutside Text.isBlank t.toList) :
    ofText ("\x7b" ++ String.ofList l.chars ++ "\x7d" ++ t) =
      .explicit [Quantity.canonicalLiteral (String.ofList l.chars)] t := by
  have listed := ofText_of_literals l [] start
  rwa [List.map_singleton, List.map_singleton, String.intercalate_singleton] at listed

theorem Spells.ofText_eq {s t : String} {q : Quantity} (spelled : Spells s q)
    (start : StartsOutside Text.isBlank t.toList) :
    Part.ofText ("\x7b" ++ s ++ "\x7d" ++ t) = .explicit [q.canonical] t := by
  obtain ⟨⟨l, rfl⟩, canonical⟩ := spelled
  rw [Part.ofText_of_literal l start, canonical]

/-- The last part that lists a quantity is in force. -/
theorem Part.inForce?_of_last {q : Quantity} {before after : List Part} {part : Part}
    (listed : part.lists q.canonical = true)
    (last : ∀ later ∈ after, later.lists q.canonical = false) (place : Nat) :
    inForce? q place (before ++ part :: after) = some part := by
  rw [inForce?, getLast?_filter_lists listed last]
  rfl

/-! ## Numbers of machine types -/

/-- A number of a type that parameters are given in: a signed or an unsigned 64-bit integer, or a
floating-point number of single or double precision, by its word. -/
inductive MachineNumber where
  | signed (n : Int64)
  | unsigned (n : UInt64)
  | single (word : UInt32)
  | double (word : UInt64)
  deriving DecidableEq

namespace MachineNumber

/-- The value that a number becomes as a parameter. -/
def value : MachineNumber → Value
  | signed n => .number n
  | unsigned n => .ofNat n.toNat
  | single word => .float (.ofSingleWord word)
  | double word => .float (.ofWord word)

/-- A floating-point number is finite if its exponent is not all ones. -/
def Finite : MachineNumber → Prop
  | signed _ => True
  | unsigned _ => True
  | single word => word.toNat % 2 ^ 31 < 255 * 2 ^ 23
  | double word => word.toNat % 2 ^ 63 < 2047 * 2 ^ 52

/-- The exact digits of a whole number. -/
def exactDigits? : MachineNumber → Option String
  | signed n => some (toString n.toInt)
  | unsigned n => some (toString n.toNat)
  | single _ => none
  | double _ => none

/-- How a number is spelled: as the text of its value, and by its exact digits. -/
def IsSpelling (number : MachineNumber) (s : String) : Prop :=
  s = number.value.display ∨ number.exactDigits? = some s

theorem isFinite_ofSingleWord {word : UInt32} (finite : (single word).Finite) :
    (Binary64.ofSingleWord word).isFinite = true := by
  have pos : 0 < 2 ^ 149 := Nat.two_pow_pos 149
  have bound : word.toNat % 2 ^ 31 < 255 * 2 ^ 23 := finite
  simp only [Binary64.ofSingleWord, Nat.pow_eq, if_pos bound]
  split
  · rename_i subnormal
    refine Magnitude.isFinite_nearest pos ?_
    calc word.toNat % 2 ^ 31 ≤ 2 ^ 23 := Nat.le_of_lt subnormal
      _ ≤ 2 ^ 128 * 2 ^ 149 := by decide
  · refine Magnitude.isFinite_nearest pos ?_
    have leading : 2 ^ 23 + word.toNat % 2 ^ 31 % 2 ^ 23 ≤ 2 ^ 24 := by omega
    have zeros : word.toNat % 2 ^ 31 / 2 ^ 23 - 1 ≤ 253 := by omega
    calc (2 ^ 23 + word.toNat % 2 ^ 31 % 2 ^ 23) * 2 ^ (word.toNat % 2 ^ 31 / 2 ^ 23 - 1)
        ≤ 2 ^ 24 * 2 ^ 253 :=
          Nat.mul_le_mul leading (Nat.pow_le_pow_right (by decide) zeros)
      _ ≤ 2 ^ 128 * 2 ^ 149 := by decide

theorem isFinite_ofWord {word : UInt64} (finite : (double word).Finite) :
    (Binary64.ofWord word).isFinite = true := by
  have bound : word.toNat % Nat.pow 2 63 < infinityRank := by
    rw [Magnitude.infinityRank_eq]
    exact finite
  simp only [Binary64.ofWord, dif_pos (Nat.le_of_lt bound)]
  exact decide_eq_true bound

theorem toString_eq_integerChars (n : Int) :
    toString n = String.ofList (Quantity.integerChars n) := by
  rw [Int.toString_eq_repr, Int.repr_eq_if, Quantity.integerChars]
  by_cases below : n < 0
  · have size : (-n).toNat = n.natAbs := by omega
    rw [if_neg (by omega), if_pos below, size, Nat.repr_eq_ofList_toDigits, String.ofList_cons]
    rfl
  · have size : n.toNat = n.natAbs := by omega
    rw [if_pos (by omega), if_neg below, size, Nat.repr_eq_ofList_toDigits]
    rfl

/-- A number that is held exactly is spelled by its digits only. -/
theorem exists_quantity_exact {number : MachineNumber} {n : Int64}
    (value : number.value = .number n)
    (digits : ∀ s, number.exactDigits? = some s → s = toString n.toInt) :
    ∃ q, number.value.quantity? = some q ∧ ∀ s, number.IsSpelling s → Spells s q := by
  refine ⟨.integer n, by rw [value]; rfl, ?_⟩
  rintro s (rfl | exact)
  · rw [value]
    exact spells_integer n
  · rw [digits s exact, toString_eq_integerChars]
    exact spells_integer n

/-- A number that is held as a finite binary64 number is spelled by the text of that. -/
theorem exists_quantity_rounded {number : MachineNumber} {x : Binary64}
    (value : number.value = .float x) (finite : x.isFinite = true)
    (digits : ∀ s q, number.exactDigits? = some s → ofBinary64? x = some q → Spells s q) :
    ∃ q, number.value.quantity? = some q ∧ ∀ s, number.IsSpelling s → Spells s q := by
  have isNumber : x ≠ .nan := by
    rintro rfl
    cases finite
  obtain ⟨q, held⟩ := Quantity.exists_ofBinary64? isNumber
  refine ⟨q, by rw [value]; exact held, ?_⟩
  rintro s (rfl | exact)
  · rw [value]
    exact spells_binary64 finite held
  · exact digits s q exact held

/-- Every spelling of a finite number spells the quantity of its value. -/
theorem exists_quantity_spelled {number : MachineNumber} (finite : number.Finite) :
    ∃ q, number.value.quantity? = some q ∧ ∀ s, number.IsSpelling s → Spells s q := by
  cases number with
  | signed n => exact exists_quantity_exact rfl fun s exact => (Option.some.inj exact).symm
  | unsigned n =>
    by_cases fits : Numeral.FitsWord n.toNat
    · refine exists_quantity_exact (if_pos fits) fun s exact => ?_
      rw [Numeral.toInt_ofInt_of_fitsWord fits]
      exact (Option.some.inj exact).symm
    · have bounded : (Binary64.ofInt n.toNat).isFinite = true := by
        have word := n.toNat_lt
        rw [Binary64.ofInt_natCast]
        exact Magnitude.isFinite_nearest Nat.one_pos (by omega)
      refine exists_quantity_rounded (if_neg fits) bounded fun s q exact held => ?_
      obtain rfl := Option.some.inj exact
      exact spells_digits fits held
  | single word =>
    refine exists_quantity_rounded rfl (isFinite_ofSingleWord finite) ?_
    rintro s q ⟨⟩
  | double word =>
    refine exists_quantity_rounded rfl (isFinite_ofWord finite) ?_
    rintro s q ⟨⟩

/-- A part with a spelling of a finite number for its rule lists the canonical text of the number
and nothing else. In a template with that part, and without a later one that lists the same text,
it is selected for the number in every locale. -/
theorem own_spelling_selects (number : MachineNumber) (finite : number.Finite) (s : String)
    (spelled : number.IsSpelling s) (t : String) (start : StartsOutside Text.isBlank t.toList) :
    ∃ q, number.value.quantity? = some q ∧
      Part.ofText ("\x7b" ++ s ++ "\x7d" ++ t) = .explicit [q.canonical] t ∧
      ∀ (template delimiter : String) (before after : List String),
        Text.split delimiter template = before ++ ("\x7b" ++ s ++ "\x7d" ++ t) :: after →
        (∀ later ∈ after, (Part.ofText later).lists q.canonical = false) →
        ∀ (locale : String) (registry : Registry),
          (VariantSet.ofTemplate template delimiter).select q locale registry = t := by
  obtain ⟨q, held, spells⟩ := exists_quantity_spelled finite
  have part := (spells s spelled).ofText_eq start
  refine ⟨q, held, part, ?_⟩
  intro template delimiter before after split last locale registry
  have parts : VariantSet.parts template delimiter =
      before.map Part.ofText ++ .explicit [q.canonical] t :: after.map Part.ofText := by
    rw [VariantSet.parts, split, List.map_append, List.map_cons, part]
  have inForce : Part.inForce? q (registry.categoryIndex locale q)
      (VariantSet.parts template delimiter) = some (.explicit [q.canonical] t) := by
    rw [parts]
    exact Part.inForce?_of_last (by simp [Part.lists]) (by simpa using last) _
  have nonempty : VariantSet.parts template delimiter ≠ [] := by
    rw [parts]
    simp
  have selected := VariantSet.select_ofParts template nonempty q locale registry
  rw [inForce] at selected
  exact (Option.some.inj selected).symm

/-- The greatest unsigned number is held as `2 ^ 64`, and still matches its exact digits. -/
theorem own_spelling_selects_greatest :
    (unsigned 18446744073709551615).IsSpelling "18446744073709551615" ∧
      ∃ q, (unsigned 18446744073709551615).value.quantity? = some q ∧
        ∀ (locale : String) (registry : Registry),
          (VariantSet.ofTemplate "\x7b18446744073709551615\x7dall|other" "|").select q locale
            registry = "all" := by
  have spelled : (unsigned 18446744073709551615).IsSpelling "18446744073709551615" := .inr rfl
  have start : StartsOutside Text.isBlank "all".toList := startsOutside_cons rfl _
  obtain ⟨q, held, -, selects⟩ :=
    own_spelling_selects (unsigned 18446744073709551615) trivial _ spelled "all" start
  refine ⟨spelled, q, held, selects _ "|" [] ["other"] (by decide +kernel) ?_⟩
  have plain : Part.ofText "other" = .plain "other" := by decide +kernel
  intro later member
  rw [List.mem_singleton.1 member, plain]
  rfl

/-- An infinite number does not match its spelling, which is no list of literals. -/
theorem infinite_single_not_listed :
    (single 0x7f800000).IsSpelling "inf" ∧
      (∃ q, (single 0x7f800000).value.quantity? = some q ∧
        (VariantSet.ofTemplate "\x7binf\x7dt|other" "|").select q "en" .standard = "other") ∧
      ¬ ∃ q : Quantity, Part.ofText ("\x7b" ++ "inf" ++ "\x7d" ++ "t") =
        .explicit [q.canonical] "t" := by
  have plain : Part.ofText ("\x7b" ++ "inf" ++ "\x7d" ++ "t") = .plain "\x7binf\x7dt" := by
    decide +kernel
  have other : ∃ q, (single 0x7f800000).value.quantity? = some q ∧
      (VariantSet.ofTemplate "\x7binf\x7dt|other" "|").select q "en" .standard = "other" :=
    ⟨.measure (.signed false .infinity) (by decide) (by decide +kernel), by decide +kernel,
      by decide +kernel⟩
  refine ⟨.inl (by decide +kernel), other, ?_⟩
  rintro ⟨q, explicit⟩
  rw [plain] at explicit
  cases explicit

end MachineNumber

end PluralTemplate
