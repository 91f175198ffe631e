import PluralTemplate.Proofs.Quantity.Canonical
import PluralTemplate.Proofs.Text.LetterCase

/-!
# What spells a number

A number is spelled with an optional sign, plus or minus, and then either as a decimal or as one of
two words for infinity. A decimal is digits with an optional point before, among or behind them,
and may have an exponent; the words are `inf` and `infinity` in any letter case.

Each symbol is a type whose members are the decompositions of a text, and `chars` writes a member
out. The reader of binary64 numbers takes what is written so (`Spelling.exists_binary64?_chars`),
and besides it only the word for the value that is not a number (`exists_spelling_of_binary64?`).
A whole number that fits a word is spelled so, too (`exists_spelling_of_integer?`). Hence a text is
read as a quantity just when what is left of it between white space is a spelling
(`Quantity.isSome_parse?_iff`).
-/

set_option autoImplicit false

namespace PluralTemplate.Numeral

open Grammar (Digits)
open Text (SameButCase)

/-! ## Spellings -/

inductive Sign where
  | absent
  | minus
  | plus
  deriving DecidableEq

/-- Digits with an optional point. There is a digit on one side of it at least. -/
structure Mantissa where
  whole : List Char
  /-- What stands behind the point. -/
  fraction : Option (List Char)
  wholeDigits : ∀ c ∈ whole, c.isDigit = true
  fractionDigits : ∀ digits ∈ fraction, ∀ c ∈ digits, c.isDigit = true
  nonempty : whole ++ fraction.getD [] ≠ []

/-- A power of ten. -/
structure Exponent where
  capital : Bool
  sign : Sign
  digits : Digits

inductive Spelling where
  | decimal (sign : Sign) (mantissa : Mantissa) (exponent : Option Exponent)
  | infinity (sign : Sign) (word : List Char) (named : SameButCase word ['i', 'n', 'f'])
  | infinityInFull (sign : Sign) (word : List Char)
    (named : SameButCase word ['i', 'n', 'f', 'i', 'n', 'i', 't', 'y'])

def Sign.chars : Sign → List Char
  | absent => []
  | minus => ['-']
  | plus => ['+']

/-- The point, if there is one, and what stands behind it. -/
def pointChars : Option (List Char) → List Char
  | none => []
  | some digits => '.' :: digits

def Mantissa.chars (m : Mantissa) : List Char := m.whole ++ pointChars m.fraction

def Exponent.chars (e : Exponent) : List Char :=
  (if e.capital then 'E' else 'e') :: (e.sign.chars ++ e.digits.chars)

/-- What stands behind the mantissa. -/
def exponentChars : Option Exponent → List Char
  | none => []
  | some e => e.chars

namespace Spelling

def sign : Spelling → Sign
  | decimal sign _ _ => sign
  | infinity sign _ _ => sign
  | infinityInFull sign _ _ => sign

/-- The spelling without its sign. -/
def body : Spelling → List Char
  | decimal _ mantissa exponent => mantissa.chars ++ exponentChars exponent
  | infinity _ word _ => word
  | infinityInFull _ word _ => word

def chars (s : Spelling) : List Char := s.sign.chars ++ s.body

end Spelling

variable {text : List Char} {c : Char}

/-! ## Signs -/

def isSign (c : Char) : Bool := c == '-' || c == '+'

theorem isSign_eq_false_iff : isSign c = false ↔ c ≠ '-' ∧ c ≠ '+' := by
  rw [isSign, Bool.or_eq_false_iff, beq_eq_false_iff_ne, beq_eq_false_iff_ne]

theorem splitSign_append (sign : Sign) {body : List Char} (unsigned : StartsOutside isSign body) :
    splitSign (sign.chars ++ body) = (sign == .minus, body) := by
  cases sign with
  | minus => rfl
  | plus => rfl
  | absent =>
    change splitSign body = (false, body)
    unfold splitSign
    split
    · cases unsigned '-' rfl
    · cases unsigned '+' rfl
    · rfl

theorem exists_sign (text : List Char) :
    ∃ sign : Sign, sign.chars ++ (splitSign text).2 = text := by
  unfold splitSign
  split
  · exact ⟨.minus, rfl⟩
  · exact ⟨.plus, rfl⟩
  · exact ⟨.absent, rfl⟩

/-! ## Decimals -/

theorem isDigits_iff : isDigits text = true ↔ ∃ d : Digits, d.chars = text := by
  rw [isDigits, Bool.and_eq_true, Bool.not_eq_true', List.isEmpty_eq_false_iff, List.all_eq_true]
  constructor
  · rintro ⟨nonempty, digits⟩
    exact ⟨⟨text, nonempty, digits⟩, rfl⟩
  · rintro ⟨d, rfl⟩
    exact ⟨d.nonempty, d.digit⟩

theorem startsOutside_digits (d : Digits) : StartsOutside isSign d.chars := by
  rw [← List.append_nil d.chars]
  refine startsOutside_append d.nonempty (fun c member => ?_) []
  have digit := d.digit c member
  refine isSign_eq_false_iff.2 ⟨?_, ?_⟩ <;> rintro rfl <;> cases digit

theorem isSome_exponent?_iff :
    (exponent? text).isSome = true ↔ ∃ e : Option Exponent, exponentChars e = text := by
  constructor
  · cases text with
    | nil => exact fun _ => ⟨none, rfl⟩
    | cons mark rest =>
      intro read
      simp only [exponent?] at read
      split at read
      · rename_i marked
        obtain ⟨d, digits⟩ := isDigits_iff.1 marked.2
        obtain ⟨sign, whole⟩ := exists_sign rest
        refine ⟨some ⟨mark = 'E', sign, d⟩, ?_⟩
        rw [exponentChars, Exponent.chars, digits, whole]
        rcases marked.1 with rfl | rfl <;> rfl
      · cases read
  · rintro ⟨e, rfl⟩
    cases e with
    | none => rfl
    | some e =>
      have split := splitSign_append e.sign (startsOutside_digits e.digits)
      have digits : isDigits e.digits.chars = true := isDigits_iff.2 ⟨e.digits, rfl⟩
      have mark : (if e.capital then 'E' else 'e') = 'e' ∨
          (if e.capital then 'E' else 'e') = 'E' := by
        cases e.capital <;> simp
      simp only [exponentChars, Exponent.chars, exponent?, split, digits, mark, and_self, if_true,
        Option.isSome_some]

/-- An exponent begins with a letter. -/
theorem startsOutside_exponentChars {p : Char → Bool} (small : p 'e' = false)
    (capital : p 'E' = false) (e : Option Exponent) : StartsOutside p (exponentChars e) := by
  cases e with
  | none => exact startsOutside_nil p
  | some e =>
    refine startsOutside_cons ?_ _
    cases e.capital
    · exact small
    · exact capital

theorem exists_fraction (text : List Char) :
    ∃ fraction : Option (List Char), (∀ digits ∈ fraction, ∀ c ∈ digits, c.isDigit = true) ∧
      splitFraction text = (fraction.getD [], (splitFraction text).2) ∧
      pointChars fraction ++ (splitFraction text).2 = text := by
  unfold splitFraction
  split
  · rename_i rest
    refine ⟨some (rest.takeWhile Char.isDigit), ?_, rfl,
      congrArg ('.' :: ·) List.takeWhile_append_dropWhile⟩
    intro digits found c member
    obtain rfl := Option.some.inj found
    exact List.mem_takeWhile_imp member
  · exact ⟨none, by rintro _ ⟨⟩, rfl, rfl⟩

section Parts

variable (m : Mantissa) (e : Option Exponent)

theorem startsOutside_behind_whole :
    StartsOutside Char.isDigit (pointChars m.fraction ++ exponentChars e) := by
  cases m.fraction with
  | none => exact startsOutside_exponentChars rfl rfl e
  | some _ => exact startsOutside_cons rfl _

theorem takeWhile_decimal : (m.chars ++ exponentChars e).takeWhile Char.isDigit = m.whole := by
  rw [Mantissa.chars, List.append_assoc]
  exact takeWhile_run m.wholeDigits (startsOutside_behind_whole m e)

theorem dropWhile_decimal : (m.chars ++ exponentChars e).dropWhile Char.isDigit =
    pointChars m.fraction ++ exponentChars e := by
  rw [Mantissa.chars, List.append_assoc]
  exact dropWhile_run m.wholeDigits (startsOutside_behind_whole m e)

theorem splitFraction_append : splitFraction (pointChars m.fraction ++ exponentChars e) =
    (m.fraction.getD [], exponentChars e) := by
  have digitless := startsOutside_exponentChars (p := Char.isDigit) rfl rfl e
  have pointless := startsOutside_exponentChars (p := (· == '.')) rfl rfl e
  cases fraction : m.fraction with
  | some digits =>
    have inside := m.fractionDigits digits fraction
    simp only [pointChars, List.cons_append, splitFraction, takeWhile_run inside digitless,
      dropWhile_run inside digitless, Option.getD_some]
  | none =>
    change splitFraction (exponentChars e) = ([], exponentChars e)
    unfold splitFraction
    split
    · rename_i point
      rw [point] at pointless
      cases pointless '.' rfl
    · rfl

end Parts

theorem isSome_decimal?_iff :
    (decimal? text).isSome = true ↔
      ∃ (m : Mantissa) (e : Option Exponent), m.chars ++ exponentChars e = text := by
  constructor
  · intro read
    obtain ⟨fraction, digits, split, behind⟩ := exists_fraction (text.dropWhile Char.isDigit)
    simp only [decimal?] at read
    rw [split] at read
    split at read
    · cases read
    · rename_i some
      rw [Option.isSome_map, isSome_exponent?_iff] at read
      obtain ⟨e, exponent⟩ := read
      refine ⟨⟨text.takeWhile Char.isDigit, fraction, fun _ => List.mem_takeWhile_imp, digits,
        by simpa using some⟩, e, ?_⟩
      rw [Mantissa.chars, exponent, List.append_assoc, behind, List.takeWhile_append_dropWhile]
  · rintro ⟨m, e, rfl⟩
    have some : ¬ (m.whole ++ m.fraction.getD []).isEmpty = true := by simpa using m.nonempty
    simp only [decimal?, takeWhile_decimal, dropWhile_decimal, splitFraction_append, some,
      Bool.false_eq_true, if_false, Option.isSome_map]
    exact isSome_exponent?_iff.2 ⟨e, rfl⟩

/-! ## Numbers -/

/-- A decimal begins with a digit or a point. -/
theorem Mantissa.exists_first (m : Mantissa) (rest : List Char) :
    ∃ c tail, m.chars ++ rest = c :: tail ∧ (c.isDigit = true ∨ c = '.') := by
  obtain ⟨whole, fraction, wholeDigits, -, nonempty⟩ := m
  cases whole with
  | cons c tail => exact ⟨c, _, rfl, .inl (wholeDigits c List.mem_cons_self)⟩
  | nil =>
    cases fraction with
    | none => exact absurd rfl nonempty
    | some digits => exact ⟨'.', _, rfl, .inr rfl⟩

/-- So it is no word, in whatever letter case. -/
theorem Mantissa.map_toLower_ne (m : Mantissa) (rest : List Char) {letter : Char}
    (noDigit : letter.isDigit = false) (noPoint : letter ≠ '.') (word : List Char) :
    (m.chars ++ rest).map Char.toLower ≠ letter :: word := by
  obtain ⟨c, tail, cons, digit | rfl⟩ := m.exists_first rest
  · rw [cons, List.map_cons, Grammar.toLower_of_isDigit digit]
    intro same
    rw [(List.cons.inj same).1, noDigit] at digit
    cases digit
  · rw [cons]
    exact fun same => noPoint (List.cons.inj same).1.symm

/-- Both words begin with one letter. -/
theorem startsOutside_named {name word : List Char} (named : SameButCase word ('i' :: name)) :
    StartsOutside isSign word := by
  cases named with
  | cons first _ =>
    have letter := Text.toLower_eq_iff.2 first
    refine startsOutside_cons (isSign_eq_false_iff.2 ⟨?_, ?_⟩) _ <;> rintro rfl <;> cases letter

namespace Spelling

theorem startsOutside_body (s : Spelling) : StartsOutside isSign s.body := by
  cases s with
  | infinity _ word named => exact startsOutside_named named
  | infinityInFull _ word named => exact startsOutside_named named
  | decimal _ m e =>
    obtain ⟨c, tail, cons, first⟩ := m.exists_first (exponentChars e)
    rw [body, cons]
    refine startsOutside_cons (isSign_eq_false_iff.2 ⟨?_, ?_⟩) tail
    all_goals
      rintro rfl
      rcases first with digit | point
      · cases digit
      · cases point

theorem splitSign_chars (s : Spelling) : splitSign s.chars = (s.sign == .minus, s.body) :=
  splitSign_append s.sign s.startsOutside_body

/-- What is spelled is a number. -/
theorem exists_binary64?_chars (s : Spelling) :
    ∃ negative m, binary64? s.chars = some (.signed negative m) := by
  simp only [binary64?, splitSign_chars]
  cases s with
  | infinity sign word named =>
    have lower : word.map Char.toLower = "inf".toList := Text.map_toLower_eq_iff.2 named
    exact ⟨_, _, if_pos (.inl lower)⟩
  | infinityInFull sign word named =>
    have lower : word.map Char.toLower = "infinity".toList := Text.map_toLower_eq_iff.2 named
    exact ⟨_, _, if_pos (.inr lower)⟩
  | decimal sign m e =>
    have noName : ∀ {letter : Char} (word : List Char), letter.isDigit = false → letter ≠ '.' →
        (decimal sign m e).body.map Char.toLower ≠ letter :: word :=
      fun word noDigit noPoint => m.map_toLower_ne (exponentChars e) noDigit noPoint word
    have noInfinity : ¬ ((decimal sign m e).body.map Char.toLower = "inf".toList ∨
        (decimal sign m e).body.map Char.toLower = "infinity".toList) :=
      not_or.2 ⟨noName ['n', 'f'] rfl (by decide),
        noName ['n', 'f', 'i', 'n', 'i', 't', 'y'] rfl (by decide)⟩
    have isNumber : ¬ (decimal sign m e).body.map Char.toLower = "nan".toList :=
      noName ['a', 'n'] rfl (by decide)
    obtain ⟨d, read⟩ := Option.isSome_iff_exists.1
      (isSome_decimal?_iff.2 ⟨m, e, (rfl : _ = (decimal sign m e).body)⟩)
    rw [if_neg noInfinity, if_neg isNumber, read]
    exact ⟨_, _, rfl⟩

end Spelling

/-- A number is read from what is spelled only. -/
theorem exists_spelling_of_binary64? {x : Binary64} (read : binary64? text = some x)
    (isNumber : x ≠ .nan) : ∃ s : Spelling, s.chars = text := by
  obtain ⟨sign, whole⟩ := exists_sign text
  simp only [binary64?] at read
  split at read
  · rename_i named
    rcases named with lower | lower
    · exact ⟨.infinity sign _ (Text.map_toLower_eq_iff.1 lower), whole⟩
    · exact ⟨.infinityInFull sign _ (Text.map_toLower_eq_iff.1 lower), whole⟩
  · split at read
    · exact absurd (Option.some.inj read).symm isNumber
    · obtain ⟨d, decimal, -⟩ := Option.map_eq_some_iff.1 read
      obtain ⟨m, e, spelled⟩ := isSome_decimal?_iff.1 (Option.isSome_of_eq_some decimal)
      refine ⟨.decimal sign m e, ?_⟩
      rw [← whole, ← spelled]
      rfl

/-- Whole numbers are spelled as decimals. -/
theorem exists_spelling_of_integer? {n : Int64} (read : integer? text = some n) :
    ∃ s : Spelling, s.chars = text := by
  obtain ⟨sign, whole⟩ := exists_sign text
  simp only [integer?] at read
  split at read
  · rename_i digits
    obtain ⟨d, spelled⟩ := isDigits_iff.1 digits
    refine ⟨.decimal sign ⟨d.chars, none, d.digit, by rintro _ ⟨⟩, by simpa using d.nonempty⟩ none,
      ?_⟩
    rw [← whole, ← spelled]
    simp [Spelling.chars, Spelling.sign, Spelling.body, Mantissa.chars, pointChars, exponentChars]
  · cases read

end PluralTemplate.Numeral

namespace PluralTemplate.Quantity

open Numeral (Spelling)

/-- A text is read as a quantity just when it is a spelling, apart from white space around it. -/
theorem isSome_parse?_iff {text : String} :
    (parse? text).isSome = true ↔
      ∃ s : Spelling, s.chars = Text.strip Text.isWhiteSpace text.toList := by
  unfold parse?
  dsimp only
  cases integer : Numeral.integer? (Text.strip Text.isWhiteSpace text.toList) with
  | some n => exact iff_of_true rfl (Numeral.exists_spelling_of_integer? integer)
  | none =>
    constructor
    · intro read
      obtain ⟨q, bound⟩ := Option.isSome_iff_exists.1 read
      obtain ⟨x, binary64, held⟩ := Option.bind_eq_some_iff.1 bound
      refine Numeral.exists_spelling_of_binary64? binary64 ?_
      rintro rfl
      cases held
    · rintro ⟨s, spelled⟩
      obtain ⟨negative, m, read⟩ := s.exists_binary64?_chars
      obtain ⟨q, held⟩ := exists_ofBinary64? (x := .signed negative m) (by rintro ⟨⟩)
      rw [← spelled, read]
      exact Option.isSome_of_eq_some held

end PluralTemplate.Quantity
