import Mathlib.Order.Monotone.Basic
import Mathlib.Tactic.Ring
import PluralTemplate.Binary64

/-!
# Ranks and their units

The magnitude of a rank grows with the rank, by one unit below `2 ^ 53` and by twice as much
after every further `2 ^ 52` ranks (`unitsAt_succ`), and the rank found below a number of units
is the greatest one that does not exceed it (`le_rankBelow_iff`). These two facts are all that
rounding uses of the layout of binary64 numbers.
-/

set_option autoImplicit false

namespace PluralTemplate.Magnitude

/-! ## The units of a rank -/

theorem unitsAt_of_lt {rank : Nat} (fraction : rank < 2 ^ 52) : unitsAt rank = rank := by
  simp only [unitsAt, Nat.pow_eq]
  exact if_pos fraction

/-- Behind the first `2 ^ 52` ranks a magnitude is 53 leading bits, with zeros behind them. -/
theorem unitsAt_leading (zeros : Nat) {leading : Nat} (full : 2 ^ 52 ≤ leading)
    (bits : leading < 2 ^ 53) : unitsAt (zeros * 2 ^ 52 + leading) = leading * 2 ^ zeros := by
  have quotient : (zeros * 2 ^ 52 + leading) / 2 ^ 52 - 1 = zeros := by omega
  have remainder : 2 ^ 52 + (zeros * 2 ^ 52 + leading) % 2 ^ 52 = leading := by omega
  have large : ¬ zeros * 2 ^ 52 + leading < 2 ^ 52 := by omega
  simp only [unitsAt, Nat.pow_eq]
  rw [if_neg large, quotient, remainder]

theorem exists_leading {rank : Nat} (large : 2 ^ 52 ≤ rank) :
    ∃ zeros leading, 2 ^ 52 ≤ leading ∧ leading < 2 ^ 53 ∧ rank = zeros * 2 ^ 52 + leading :=
  ⟨rank / 2 ^ 52 - 1, 2 ^ 52 + rank % 2 ^ 52, by omega, by omega, by omega⟩

/-- Up to `2 ^ 53` every number of units is a magnitude, the one of that rank. -/
theorem unitsAt_of_le {rank : Nat} (small : rank ≤ 2 ^ 53) : unitsAt rank = rank := by
  by_cases fraction : rank < 2 ^ 52
  · exact unitsAt_of_lt fraction
  · by_cases last : rank = 2 ^ 53
    · rw [last]
      exact unitsAt_leading 1 (Nat.le_refl _) (by decide)
    · have whole := unitsAt_leading 0 (Nat.le_of_not_lt fraction) (by omega)
      rwa [Nat.zero_mul, Nat.zero_add, pow_zero, Nat.mul_one] at whole

/-- Two neighbours lie apart by one unit, doubled once for every zero behind the leading bits. -/
theorem unitsAt_succ (rank : Nat) :
    unitsAt (rank + 1) = unitsAt rank + 2 ^ (rank / 2 ^ 52 - 1) := by
  by_cases small : rank < 2 ^ 53
  · have step : rank / 2 ^ 52 - 1 = 0 := by omega
    have next : unitsAt (rank + 1) = rank + 1 := unitsAt_of_le small
    rw [next, unitsAt_of_le (Nat.le_of_lt small), step, pow_zero]
  · obtain ⟨zeros, leading, full, bits, rfl⟩ := exists_leading (show 2 ^ 52 ≤ rank by omega)
    have step : (zeros * 2 ^ 52 + leading) / 2 ^ 52 - 1 = zeros := by omega
    rw [unitsAt_leading zeros full bits, step, ← Nat.succ_mul]
    by_cases last : leading + 1 = 2 ^ 53
    · have next : zeros * 2 ^ 52 + leading + 1 = (zeros + 1) * 2 ^ 52 + 2 ^ 52 := by omega
      have carried := unitsAt_leading (zeros + 1) (Nat.le_refl (2 ^ 52)) (by decide)
      have doubled : leading.succ = 2 ^ 52 * 2 := by omega
      rw [next, carried, doubled, pow_succ' 2 zeros, Nat.mul_assoc]
    · rw [Nat.add_assoc]
      exact unitsAt_leading zeros (by omega) (by omega)

theorem unitsAt_strictMono : StrictMono unitsAt := by
  refine strictMono_nat_of_lt_succ fun rank => ?_
  rw [unitsAt_succ]
  exact Nat.lt_add_of_pos_right (Nat.two_pow_pos _)

/-! ## The rank below a number of units -/

theorem rankBelow_of_lt {units : Nat} (small : units < 2 ^ 53) : rankBelow units = units := by
  simp only [rankBelow, Nat.pow_eq]
  exact if_pos small

/-- The rank below a number of 54 bits or more is read off its leading bits. -/
theorem exists_rankBelow {units : Nat} (large : 2 ^ 53 ≤ units) :
    ∃ zeros leading, 2 ^ 52 ≤ leading ∧ leading < 2 ^ 53 ∧ units / 2 ^ zeros = leading ∧
      units.log2 = 52 + zeros ∧ rankBelow units = zeros * 2 ^ 52 + leading := by
  have nonzero : units ≠ 0 := by omega
  have bits : 53 ≤ units.log2 := (Nat.le_log2 nonzero).2 large
  have length : units.log2 = 52 + (units.log2 - 52) := by omega
  refine ⟨units.log2 - 52, units / 2 ^ (units.log2 - 52), ?_, ?_, rfl, length, ?_⟩
  · rw [Nat.le_div_iff_mul_le (Nat.two_pow_pos _), ← pow_add, ← length]
    exact Nat.log2_self_le nonzero
  · rw [Nat.div_lt_iff_lt_mul (Nat.two_pow_pos _), ← pow_add]
    rw [show 53 + (units.log2 - 52) = units.log2 + 1 by omega]
    exact Nat.lt_log2_self
  · simp only [rankBelow, Nat.pow_eq]
    exact if_neg (Nat.not_lt.2 large)

theorem rankBelow_bounds (units : Nat) :
    unitsAt (rankBelow units) ≤ units ∧ units < unitsAt (rankBelow units + 1) := by
  rw [unitsAt_succ]
  by_cases small : units < 2 ^ 53
  · rw [rankBelow_of_lt small, unitsAt_of_le (Nat.le_of_lt small)]
    exact ⟨Nat.le_refl _, Nat.lt_add_of_pos_right (Nat.two_pow_pos _)⟩
  · obtain ⟨zeros, leading, full, bits, kept, -, rank⟩ :=
      exists_rankBelow (Nat.le_of_not_lt small)
    have step : (zeros * 2 ^ 52 + leading) / 2 ^ 52 - 1 = zeros := by omega
    rw [rank, unitsAt_leading zeros full bits, step, ← kept]
    constructor
    · exact Nat.div_mul_le_self units (2 ^ zeros)
    · rw [← Nat.succ_mul]
      exact Nat.lt_mul_of_div_lt (Nat.lt_succ_self _) (Nat.two_pow_pos zeros)

/-- The rank below a number of units is the greatest whose magnitude does not exceed it. -/
theorem le_rankBelow_iff {rank units : Nat} : rank ≤ rankBelow units ↔ unitsAt rank ≤ units := by
  obtain ⟨lower, upper⟩ := rankBelow_bounds units
  constructor
  · intro atMost
    exact Nat.le_trans (unitsAt_strictMono.monotone atMost) lower
  · intro fits
    exact Nat.le_of_lt_succ (unitsAt_strictMono.lt_iff_lt.1 (Nat.lt_of_le_of_lt fits upper))

theorem rankBelow_unitsAt (rank : Nat) : rankBelow (unitsAt rank) = rank := by
  refine Nat.le_antisymm ?_ (le_rankBelow_iff.2 (Nat.le_refl _))
  exact unitsAt_strictMono.le_iff_le.1 (rankBelow_bounds (unitsAt rank)).1

/-- A number of at most 53 bits with zeros behind it is a magnitude. -/
theorem unitsAt_rankBelow_shifted {bits : Nat} (short : bits < 2 ^ 53) (shift : Nat) :
    unitsAt (rankBelow (bits * 2 ^ shift)) = bits * 2 ^ shift := by
  by_cases small : bits * 2 ^ shift < 2 ^ 53
  · rw [rankBelow_of_lt small, unitsAt_of_le (Nat.le_of_lt small)]
  · obtain ⟨zeros, leading, full, top, kept, length, rank⟩ :=
      exists_rankBelow (Nat.le_of_not_lt small)
    have long : (bits * 2 ^ shift).log2 < 53 + shift := by
      rw [Nat.log2_lt (by omega), pow_add]
      exact Nat.mul_lt_mul_of_pos_right short (Nat.two_pow_pos shift)
    have divides : 2 ^ zeros ∣ bits * 2 ^ shift :=
      Nat.dvd_mul_left_of_dvd (Nat.pow_dvd_pow 2 (by omega)) bits
    rw [rank, unitsAt_leading zeros full top, ← kept, Nat.div_mul_cancel divides]

end PluralTemplate.Magnitude
