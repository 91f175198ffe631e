import PluralTemplate.Quantity

/-!
# Parameter values

A parameter holds an integer, a binary64 number or a text. Each has a text, which is
what a placeholder becomes, and may have a quantity, which is what a variant is
selected for.
-/

set_option autoImplicit false

namespace PluralTemplate

inductive Value where
  | number (n : Int64)
  | float (x : Binary64)
  | text (s : String)
  deriving DecidableEq

namespace Value

/-- A natural number is held exactly if it fits a signed word, and as the nearest
binary64 number otherwise. -/
def ofNat (n : Nat) : Value :=
  if Numeral.FitsWord n then number (Int64.ofInt n) else float (.ofInt n)

/-- The text that stands for the value in a message. -/
def display : Value → String
  | number n => String.ofList (Quantity.integerChars n.toInt)
  | float x => x.text
  | text s => s

def quantity? : Value → Option Quantity
  | number n => some (.integer n)
  | float x => Quantity.ofBinary64? x
  | text s => Quantity.parse? s

end Value

end PluralTemplate
