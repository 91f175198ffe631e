import PluralTemplate.Decimal

/-!
# Numerals

Two spellings of a number are read here: a whole number that fits a 64-bit word,
and a binary64 number as digits with an optional point and exponent or as one of
the names of infinity and of the value that is not a number.
-/

set_option autoImplicit false

namespace PluralTemplate.Numeral

/-- A leading sign, as whether it is a minus, and what follows it. -/
def splitSign : List Char → Bool × List Char
  | '-' :: rest => (true, rest)
  | '+' :: rest => (false, rest)
  | text => (false, text)

/-- One or more ASCII digits. -/
def isDigits (text : List Char) : Bool := !text.isEmpty && text.all Char.isDigit

/-- The number that a run of digits spells. -/
def value (digits : List Char) : Nat := Nat.ofDigitChars 10 digits 0

/-- Whether an integer lies in the range of 64-bit signed words. -/
def FitsWord (n : Int) : Prop := Int64.minValue.toInt ≤ n ∧ n ≤ Int64.maxValue.toInt

instance (n : Int) : Decidable (FitsWord n) := inferInstanceAs (Decidable (_ ∧ _))

/-- A whole number in decimal, with an optional sign and no more than 64 bits. -/
def integer? (text : List Char) : Option Int64 :=
  let (negative, digits) := splitSign text
  if isDigits digits then
    let n : Int := if negative then -(value digits : Int) else value digits
    if FitsWord n then some (Int64.ofInt n) else none
  else none

/-- The exponent after a mantissa: nothing, or `e` and a signed run of digits. -/
def exponent? : List Char → Option Int
  | [] => some 0
  | mark :: rest =>
    let (negative, digits) := splitSign rest
    if (mark = 'e' ∨ mark = 'E') ∧ isDigits digits then
      some (if negative then -(value digits : Int) else value digits)
    else none

/-- The fraction digits after an optional point, and what follows them. -/
def splitFraction : List Char → List Char × List Char
  | '.' :: rest => (rest.takeWhile Char.isDigit, rest.dropWhile Char.isDigit)
  | text => ([], text)

/-- An unsigned decimal: digits with an optional point, at least one digit on
either side of it, and an optional exponent. -/
def decimal? (text : List Char) : Option Decimal :=
  let whole := text.takeWhile Char.isDigit
  let (fraction, rest) := splitFraction (text.dropWhile Char.isDigit)
  if (whole ++ fraction).isEmpty then none
  else (exponent? rest).map fun exponent =>
    ⟨value (whole ++ fraction), exponent - fraction.length⟩

/-- A binary64 number with an optional sign: `inf`, `infinity` or `nan` in any
letter case, or the number nearest to a decimal. -/
def binary64? (text : List Char) : Option Binary64 :=
  let (negative, body) := splitSign text
  let word := body.map Char.toLower
  if word = "inf".toList ∨ word = "infinity".toList then some (.signed negative .infinity)
  else if word = "nan".toList then some .nan
  else (decimal? body).map fun d => .signed negative d.toMagnitude

end PluralTemplate.Numeral
