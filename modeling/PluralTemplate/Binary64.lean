/-!
# Binary64 numbers, by sign and rank

A binary64 number other than a NaN is a sign and a magnitude, and a magnitude is
named by its *rank* in the increasing list of all magnitudes: rank `0` is zero,
rank `1` is the least positive number `2⁻¹⁰⁷⁴`, and the last rank is infinity.
The rank is at once the exponent-and-fraction field of the number's word, so
words decode without arithmetic, the next larger magnitude has the next rank, and
comparing two numbers is comparing two integers (`Binary64.position`).

Every finite magnitude is a whole number of units of `2⁻¹⁰⁷⁴`
(`Magnitude.unitsAt`), so all exact arithmetic on them is arithmetic on `Nat`. The
number of units in one is a large power with a name, `Magnitude.unitsOfOne`, which is
what proofs reason with.
-/

set_option autoImplicit false

namespace PluralTemplate

/-- The rank of infinity, which is the number of finite magnitudes. -/
def infinityRank : Nat := 2047 * Nat.pow 2 52

/-- A non-negative binary64 number, finite or infinite, named by its rank. -/
structure Magnitude where
  rank : Nat
  rank_le : rank ≤ infinityRank
  deriving DecidableEq, Repr

namespace Magnitude

/-- The magnitude of a given rank; every rank past the last finite one gives
infinity. -/
def ofRank (rank : Nat) : Magnitude :=
  ⟨min rank infinityRank, Nat.min_le_right _ _⟩

def zero : Magnitude := ofRank 0

def infinity : Magnitude := ofRank infinityRank

/-- Infinity is the one magnitude that is not finite. -/
def isFinite (m : Magnitude) : Bool := m.rank < infinityRank

/-- A unit is a half to this power, and so has as many decimal places. -/
@[irreducible] def unitPlaces : Nat := 1074

/-- How many units make one. -/
def unitsOfOne : Nat := Nat.pow 2 unitPlaces

/-- The magnitude of a given rank, counted in units of `2⁻¹⁰⁷⁴`. Below `2 ^ 52`
the fraction is the count itself; from there on it gains a leading bit and is
doubled once for every further exponent. The rank of infinity counts as `2¹⁰²⁴`,
the number that would follow the last finite one. -/
def unitsAt (rank : Nat) : Nat :=
  if rank < Nat.pow 2 52 then rank
  else (Nat.pow 2 52 + rank % Nat.pow 2 52) * Nat.pow 2 (rank / Nat.pow 2 52 - 1)

/-- The magnitude in units of `2⁻¹⁰⁷⁴`. -/
def units (m : Magnitude) : Nat := unitsAt m.rank

/-- The greatest rank whose magnitude does not exceed `units`: keep the leading
53 bits, and count one exponent for every bit that was dropped. -/
def rankBelow (units : Nat) : Nat :=
  if units < Nat.pow 2 53 then units
  else (units.log2 - 52) * Nat.pow 2 52 + units / Nat.pow 2 (units.log2 - 52)

/-- The magnitude nearest to `numerator / denominator`; of two equally near the
one of even rank, whose last fraction bit is zero. -/
def nearest (numerator denominator : Nat) : Magnitude :=
  let scaled := numerator * unitsOfOne
  let below := rankBelow (scaled / denominator)
  let middle := (unitsAt below + unitsAt (below + 1)) * denominator
  if 2 * scaled < middle then ofRank below
  else if middle < 2 * scaled then ofRank (below + 1)
  else ofRank (below + below % 2)

end Magnitude

/-- A binary64 number. The payload and the sign of a NaN are not kept. -/
inductive Binary64 where
  | nan
  | signed (negative : Bool) (magnitude : Magnitude)
  deriving DecidableEq, Repr

namespace Binary64

def isFinite : Binary64 → Bool
  | nan => false
  | signed _ m => m.isFinite

/-- The place of a number on the line of all numbers, by signed rank. The two
zeros share place `0`. A NaN has none. -/
def position : Binary64 → Option Int
  | nan => none
  | signed negative m => some (if negative then -(m.rank : Int) else m.rank)

/-- Numeric equality: the two zeros are equal, and a NaN equals nothing. -/
def same (x y : Binary64) : Bool :=
  match x.position, y.position with
  | some p, some q => p == q
  | _, _ => false

/-- Numeric order. A NaN is below nothing and above nothing. -/
def below (x y : Binary64) : Bool :=
  match x.position, y.position with
  | some p, some q => p < q
  | _, _ => false

def neg : Binary64 → Binary64
  | nan => nan
  | signed negative m => signed (!negative) m

/-- The number nearest to an integer. -/
def ofInt (n : Int) : Binary64 :=
  signed (n < 0) (Magnitude.nearest n.natAbs 1)

/-- The integer below `2 ^ 53` in size that a number is equal to, if any. Both
zeros give `0`. Up to that bound every integer is a binary64 number, so the
reading loses nothing. -/
def smallInteger? : Binary64 → Option Int64
  | nan => none
  | signed negative m =>
    let one := Magnitude.unitsOfOne
    if m.units % one = 0 ∧ m.units / one < Nat.pow 2 53 then
      let size : Int := (m.units / one : Nat)
      some (Int64.ofInt (if negative then -size else size))
    else none

/-- The number a 64-bit word stands for. -/
def ofWord (word : UInt64) : Binary64 :=
  let signBit := Nat.pow 2 63
  let rank := word.toNat % signBit
  if h : rank ≤ infinityRank then signed (word.toNat / signBit = 1) ⟨rank, h⟩
  else nan

/-- The 64-bit word of a number; the quiet word for a NaN. -/
def toWord : Binary64 → UInt64
  | nan => UInt64.ofNat (infinityRank + Nat.pow 2 51)
  | signed negative m => UInt64.ofNat ((if negative then Nat.pow 2 63 else 0) + m.rank)

/-- The number a 32-bit word stands for. A single-precision magnitude has the
same layout in units of `2⁻¹⁴⁹` with 23 fraction bits, and each is a binary64
number, so the nearest one is that very number. -/
def ofSingleWord (word : UInt32) : Binary64 :=
  let signBit := Nat.pow 2 31
  let leading := Nat.pow 2 23
  let one := Nat.pow 2 149
  let negative : Bool := word.toNat / signBit = 1
  let rank := word.toNat % signBit
  let top := 255 * leading
  if rank < leading then signed negative (Magnitude.nearest rank one)
  else if rank < top then
    signed negative
      (Magnitude.nearest ((leading + rank % leading) * Nat.pow 2 (rank / leading - 1)) one)
  else if rank = top then signed negative .infinity
  else nan

end Binary64

end PluralTemplate
