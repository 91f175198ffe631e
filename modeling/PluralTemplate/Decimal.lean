import PluralTemplate.Binary64

/-!
# Decimals and their text

A decimal is a whole number times a power of ten. It is written positionally,
without an exponent, and it stands for the binary64 magnitude nearest to it.
-/

set_option autoImplicit false

namespace PluralTemplate

/-- The number `mantissa · 10 ^ exponent`. -/
structure Decimal where
  mantissa : Nat
  exponent : Int
  deriving DecidableEq, Repr

namespace Decimal

/-- The numerator over `denominator` of a decimal. -/
def numerator (d : Decimal) : Nat := d.mantissa * Nat.pow 10 d.exponent.toNat

def denominator (d : Decimal) : Nat := Nat.pow 10 (-d.exponent).toNat

/-- The binary64 magnitude nearest to a decimal. A power of ten above `10 ^ 400`
gives infinity, and one that leaves less than `10 ^ -399` gives zero; deciding
these two first bounds the size of the numbers that are compared. -/
def toMagnitude (d : Decimal) : Magnitude :=
  if d.mantissa = 0 then .zero
  else if 400 < d.exponent then .infinity
  else if d.exponent < -(400 + d.mantissa.log2 : Nat) then .zero
  else Magnitude.nearest d.numerator d.denominator

/-- The decimal digits of a whole number, `0` being one digit. -/
def digits (n : Nat) : List Char := Nat.toDigits 10 n

/-- The digits of `n`, with zeros in front up to `width`. -/
def paddedDigits (width n : Nat) : List Char :=
  List.replicate (width - (digits n).length) '0' ++ digits n

/-- The same number without zeros at the end of its fraction. `places` bounds how
many are dropped. -/
def dropTrailingZeros : Nat → Nat → Nat × Nat
  | 0, mantissa => (mantissa, 0)
  | places + 1, mantissa =>
    if mantissa % 10 = 0 then dropTrailingZeros places (mantissa / 10)
    else (mantissa, places + 1)

/-- Positional notation: the whole part, and after a point the fraction without
trailing zeros, if anything is left of it. -/
def positional (d : Decimal) : List Char :=
  let (mantissa, places) := dropTrailingZeros (-d.exponent).toNat d.numerator
  if places = 0 then digits mantissa
  else
    let one := Nat.pow 10 places
    digits (mantissa / one) ++ '.' :: paddedDigits places (mantissa % one)

end Decimal

end PluralTemplate
