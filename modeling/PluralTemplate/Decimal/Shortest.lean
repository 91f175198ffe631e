import PluralTemplate.Decimal

/-!
# The shortest decimal that reads back

A finite magnitude is written with the fewest digits that still stand for it, and
among decimals of that length with the nearest one. The search runs over the grids
`10 ^ place` from coarse to fine and looks on each at the two neighbours of the
magnitude. Should none of the grids offer a decimal that reads back, the exact
expansion does.
-/

set_option autoImplicit false

namespace PluralTemplate.Magnitude

/-- The exact decimal expansion: one unit of `2⁻¹⁰⁷⁴` is `5 ^ 1074 / 10 ^ 1074`. -/
def exactDecimal (m : Magnitude) : Decimal :=
  ⟨m.units * Nat.pow 5 unitPlaces, -(unitPlaces : Int)⟩

/-- A decimal stands for a magnitude if that is the one nearest to it. -/
def ReadsBack (m : Magnitude) (d : Decimal) : Prop := d.toMagnitude = m

instance (m : Magnitude) (d : Decimal) : Decidable (m.ReadsBack d) :=
  inferInstanceAs (Decidable (d.toMagnitude = m))

/-- The better of the two neighbours of a magnitude on the grid `10 ^ place` that
reads back. Of two that do it is the nearer, and the upper one when both are
equally near. -/
def neighbour? (m : Magnitude) (place : Int) : Option Decimal :=
  let scaled := m.units * Nat.pow 10 (-place).toNat
  let step := unitsOfOne * Nat.pow 10 place.toNat
  let lower : Decimal := ⟨scaled / step, place⟩
  let upper : Decimal := ⟨scaled / step + 1, place⟩
  let lowerFirst := 2 * (scaled % step) < step
  if m.ReadsBack lower ∧ (lowerFirst ∨ ¬ m.ReadsBack upper) then some lower
  else if m.ReadsBack upper then some upper
  else none

/-- A place that no digit of the magnitude exceeds: a number below `2 ^ k` is below
`10 ^ (0.30103 · k)` up to one place. -/
def topPlace (m : Magnitude) : Int :=
  (((m.units.log2 : Int) - 1073) * 30103).fdiv 100000 + 1

/-- The shortest decimal that reads back, the nearest of that length. Twenty places
below the top one are more than any binary64 number needs. -/
def shortest (m : Magnitude) : Decimal :=
  ((List.range 20).findSome? fun (k : Nat) => m.neighbour? (m.topPlace - k)).getD m.exactDecimal

end PluralTemplate.Magnitude

namespace PluralTemplate.Binary64

/-- The text of a magnitude: `inf`, or its shortest decimal written positionally. -/
def magnitudeChars (m : Magnitude) : List Char :=
  if m.isFinite then m.shortest.positional else "inf".toList

def chars : Binary64 → List Char
  | nan => "NaN".toList
  | signed negative m => if negative then '-' :: magnitudeChars m else magnitudeChars m

/-- The text of a number. It has no exponent, and a negative zero is `-0`. -/
def text (x : Binary64) : String := String.ofList x.chars

end PluralTemplate.Binary64
