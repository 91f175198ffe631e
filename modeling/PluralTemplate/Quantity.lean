import PluralTemplate.Decimal.Shortest
import PluralTemplate.Numeral
import PluralTemplate.Text.Blank

/-!
# Quantities

A quantity is what a variant is selected for: an exact 64-bit integer, or a binary64
number that is not a small integer. Every spelling of a small integer gives one
quantity, so `1`, `1.0` and `01` are the same, and the *canonical* text of a quantity is
what explicit rules are compared with.
-/

set_option autoImplicit false

namespace PluralTemplate

/-- An exact integer, or any other number. A number that equals an integer below
`2 ^ 53` in size is always held as that integer. -/
inductive Quantity where
  | integer (n : Int64)
  | measure (x : Binary64) (isNumber : x ≠ .nan) (notSmall : x.smallInteger? = none)
  deriving DecidableEq

namespace Quantity

/-- The quantity of a binary64 number; a NaN has none. -/
def ofBinary64? (x : Binary64) : Option Quantity :=
  match hs : x.smallInteger? with
  | some n => some (integer n)
  | none => if hx : x = .nan then none else some (measure x hx hs)

/-- The quantity a text spells: surrounding white space is ignored, and a whole
number that fits 64 bits is exact. -/
def parse? (text : String) : Option Quantity :=
  let trimmed := Text.strip Text.isWhiteSpace text.toList
  match Numeral.integer? trimmed with
  | some n => some (integer n)
  | none => (Numeral.binary64? trimmed).bind ofBinary64?

/-- The number as binary64, for comparison with interval bounds. -/
def value : Quantity → Binary64
  | integer n => .ofInt n.toInt
  | measure x _ _ => x

/-- The exact integer, if the quantity holds one. -/
def integer? : Quantity → Option Int64
  | integer n => some n
  | measure _ _ _ => none

/-- The digits of an integer, with a minus sign if it is negative. -/
def integerChars (n : Int) : List Char :=
  if n < 0 then '-' :: Decimal.digits n.natAbs else Decimal.digits n.natAbs

/-- The canonical text: an integer without a point, or the shortest text of the number. -/
def canonicalChars : Quantity → List Char
  | integer n => integerChars n.toInt
  | measure x _ _ => x.chars

def canonical (q : Quantity) : String := String.ofList q.canonicalChars

/-- The canonical text of a literal, or the literal itself without surrounding white
space should it not spell a quantity. -/
def canonicalLiteral (literal : String) : String :=
  match parse? literal with
  | some q => q.canonical
  | none => String.ofList (Text.strip Text.isWhiteSpace literal.toList)

end Quantity

end PluralTemplate
