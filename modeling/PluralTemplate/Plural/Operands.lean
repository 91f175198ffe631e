import PluralTemplate.Quantity

/-!
# Operands of plural rules

Plural rules look at the digits of a number without its sign: at its whole part, and at
how many fraction digits are visible and what they spell. An exact integer has no
fraction. Any other finite number is looked at in its canonical text.

Only eighteen digits of either part are kept. A longer whole part keeps its last
eighteen digits and a mark above them, so that it is still larger than any short one; a
longer fraction is cut.
-/

set_option autoImplicit false

namespace PluralTemplate.Plural

structure Operands where
  /-- The whole part. -/
  i : Nat
  /-- How many fraction digits there are. -/
  v : Nat
  /-- How many fraction digits there are without trailing zeros. -/
  w : Nat
  /-- The number the fraction digits spell. -/
  f : Nat
  /-- The number the fraction digits spell without trailing zeros. -/
  t : Nat
  deriving DecidableEq, Repr

namespace Operands

/-- How many digits of the whole part and of the fraction are kept. -/
def keptDigits : Nat := 18

def ofWhole (n : Nat) : Operands := ⟨n, 0, 0, 0, 0⟩

/-- The operands of a number written with these digits before and after its point. -/
def ofDigits (whole fraction : List Char) : Operands :=
  let excess := whole.length - keptDigits
  let kept := fraction.take keptDigits
  let significant := (kept.reverse.dropWhile (· == '0')).reverse
  { i := Numeral.value (whole.drop excess) + (if excess = 0 then 0 else Nat.pow 10 keptDigits)
    v := kept.length
    w := significant.length
    f := Numeral.value kept
    t := Numeral.value significant }

/-- The operands of a number in positional notation. -/
def ofText (text : List Char) : Operands :=
  let unsigned := text.dropWhile (· == '-')
  ofDigits (unsigned.takeWhile (· != '.')) ((unsigned.dropWhile (· != '.')).drop 1)

/-- The operands of a quantity; infinity has none. -/
def ofQuantity? : Quantity → Option Operands
  | .integer n => some (ofWhole n.toInt.natAbs)
  | .measure x _ _ => if x.isFinite then some (ofText x.chars) else none

end Operands

end PluralTemplate.Plural
