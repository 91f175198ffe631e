import Mathlib.Tactic.Ring
import PluralTemplate.Proofs.Binary64.Rank

/-!
# Rounding to the nearest magnitude

Rounding looks at a quotient only through its value (`nearest_eq_of_ratio`), leaves a magnitude
as it is (`nearest_of_units`), and crosses none (`le_rank_nearest`, `rank_nearest_le`). So whole
numbers below `2 ^ 53` are kept, and larger ones do not come below it
(`smallInteger?_nearest`).
-/

set_option autoImplicit false

namespace PluralTemplate

namespace Magnitude

theorem infinityRank_eq : infinityRank = 2047 * 2 ^ 52 := by
  rw [infinityRank, Nat.pow_eq]

theorem unitsOfOne_pos : 0 < unitsOfOne := by
  rw [unitsOfOne, Nat.pow_eq]
  exact Nat.two_pow_pos _

theorem rank_ofRank {rank : Nat} (inRange : rank ≤ infinityRank) : (ofRank rank).rank = rank :=
  Nat.min_eq_left inRange

theorem ofRank_rank (m : Magnitude) : ofRank m.rank = m := by
  obtain ⟨rank, inRange⟩ := m
  rw [ofRank, Magnitude.mk.injEq]
  exact Nat.min_eq_left inRange

/-! ## One rounding -/

section Quotients

variable {a b c d rank : Nat}

/-- Rounding stays at the rank below the quotient, or goes to the next one if the quotient is
not below the middle. -/
theorem nearest_cases {below : Nat} (found : rankBelow (a * unitsOfOne / b) = below) :
    nearest a b = ofRank below ∨
    nearest a b = ofRank (below + 1) ∧
      (unitsAt below + unitsAt (below + 1)) * b ≤ 2 * (a * unitsOfOne) := by
  simp only [nearest, found]
  split
  · exact .inl rfl
  · rename_i notLess
    split
    · exact .inr ⟨rfl, Nat.le_of_not_lt notLess⟩
    · rcases Nat.mod_two_eq_zero_or_one below with even | odd
      · rw [even]
        exact .inl rfl
      · rw [odd]
        exact .inr ⟨rfl, Nat.le_of_not_lt notLess⟩

/-- Equal quotients are rounded alike. -/
theorem nearest_eq_of_ratio (bPos : 0 < b) (dPos : 0 < d) (same : a * d = c * b) :
    nearest a b = nearest c d := by
  have quotients : a * unitsOfOne / b = c * unitsOfOne / d := by
    calc a * unitsOfOne / b = a * unitsOfOne * d / (b * d) :=
          (Nat.mul_div_mul_right _ _ dPos).symm
      _ = c * unitsOfOne * b / (d * b) := by
          rw [Nat.mul_right_comm, same, Nat.mul_right_comm, Nat.mul_comm b d]
      _ = c * unitsOfOne / d := Nat.mul_div_mul_right _ _ bPos
  have numerators : 2 * (a * unitsOfOne) * d = 2 * (c * unitsOfOne) * b := by
    calc 2 * (a * unitsOfOne) * d = 2 * unitsOfOne * (a * d) := by ring
      _ = 2 * unitsOfOne * (c * b) := by rw [same]
      _ = 2 * (c * unitsOfOne) * b := by ring
  have less : ∀ sum, 2 * (a * unitsOfOne) < sum * b ↔ 2 * (c * unitsOfOne) < sum * d := by
    intro sum
    rw [← Nat.mul_lt_mul_right dPos, numerators, Nat.mul_right_comm sum b d,
      Nat.mul_lt_mul_right bPos]
  have greater : ∀ sum, sum * b < 2 * (a * unitsOfOne) ↔ sum * d < 2 * (c * unitsOfOne) := by
    intro sum
    rw [← Nat.mul_lt_mul_right dPos, numerators, Nat.mul_right_comm sum b d,
      Nat.mul_lt_mul_right bPos]
  simp only [nearest, quotients, less, greater]

/-- A magnitude is left as it is. -/
theorem nearest_of_units (pos : 0 < b) (exact : a * unitsOfOne = unitsAt rank * b) :
    nearest a b = ofRank rank := by
  have below : rankBelow (a * unitsOfOne / b) = rank := by
    rw [exact, Nat.mul_div_cancel _ pos, rankBelow_unitsAt]
  rcases nearest_cases below with stay | ⟨-, past⟩
  · exact stay
  · have gap : unitsAt rank < unitsAt (rank + 1) := unitsAt_strictMono (Nat.lt_succ_self rank)
    have more := Nat.mul_lt_mul_of_pos_right gap pos
    rw [exact, Nat.add_mul] at past
    omega

/-- A number that is not below a magnitude is not rounded below it. -/
theorem le_rank_nearest (pos : 0 < b) (inRange : rank ≤ infinityRank)
    (atLeast : unitsAt rank * b ≤ a * unitsOfOne) : rank ≤ (nearest a b).rank := by
  have below : rank ≤ rankBelow (a * unitsOfOne / b) :=
    le_rankBelow_iff.2 ((Nat.le_div_iff_mul_le pos).2 atLeast)
  rcases nearest_cases (Eq.refl (rankBelow (a * unitsOfOne / b))) with stay | ⟨past, -⟩
  · rw [stay]
    exact Nat.le_min.2 ⟨below, inRange⟩
  · rw [past]
    exact Nat.le_min.2 ⟨Nat.le_succ_of_le below, inRange⟩

/-- A number that does not exceed a magnitude is not rounded past it. -/
theorem rank_nearest_le (pos : 0 < b) (atMost : a * unitsOfOne ≤ unitsAt rank * b) :
    (nearest a b).rank ≤ rank := by
  rcases Nat.eq_or_lt_of_le atMost with exact | less
  · rw [nearest_of_units pos exact]
    exact Nat.min_le_left _ _
  · have quotient : a * unitsOfOne / b < unitsAt rank := (Nat.div_lt_iff_lt_mul pos).2 less
    have below : rankBelow (a * unitsOfOne / b) < rank :=
      unitsAt_strictMono.lt_iff_lt.1 (Nat.lt_of_le_of_lt (rankBelow_bounds _).1 quotient)
    rcases nearest_cases (Eq.refl (rankBelow (a * unitsOfOne / b))) with stay | ⟨past, -⟩
    · rw [stay]
      exact Nat.le_trans (Nat.min_le_left _ _) (Nat.le_of_lt below)
    · rw [past]
      exact Nat.le_trans (Nat.min_le_left _ _) below

end Quotients

/-! ## Whole numbers -/

theorem unitPlaces_eq : unitPlaces = 1074 := by
  rw [unitPlaces]

/-- Infinity counts as the number behind the last finite one, `2 ^ 1024`. -/
theorem unitsAt_infinityRank : unitsAt infinityRank = 2 ^ (unitPlaces - 50) * unitsOfOne := by
  have scaled := unitsAt_leading 2046 (Nat.le_refl (2 ^ 52)) (by decide)
  have places : 52 + 2046 = unitPlaces - 50 + unitPlaces := by rw [unitPlaces_eq]
  rw [infinityRank_eq, show 2047 * 2 ^ 52 = 2046 * 2 ^ 52 + 2 ^ 52 by omega, scaled, unitsOfOne,
    Nat.pow_eq, ← pow_add, ← pow_add, places]

/-- A whole number of 53 bits, with up to 128 zeros behind them, is a finite magnitude. -/
theorem exists_rank_of_bits {bits shift : Nat} (short : bits < 2 ^ 53) (inRange : shift ≤ 128) :
    ∃ rank, rank < infinityRank ∧ unitsAt rank = bits * 2 ^ shift * unitsOfOne := by
  have exact : unitsAt (rankBelow (bits * 2 ^ shift * unitsOfOne)) =
      bits * 2 ^ shift * unitsOfOne := by
    rw [unitsOfOne, Nat.pow_eq, Nat.mul_assoc, ← pow_add]
    exact unitsAt_rankBelow_shifted short (shift + unitPlaces)
  refine ⟨_, unitsAt_strictMono.lt_iff_lt.1 ?_, exact⟩
  rw [exact, unitsAt_infinityRank]
  refine Nat.mul_lt_mul_of_pos_right ?_ unitsOfOne_pos
  calc bits * 2 ^ shift < 2 ^ 53 * 2 ^ shift :=
        Nat.mul_lt_mul_of_pos_right short (Nat.two_pow_pos shift)
    _ = 2 ^ (53 + shift) := (pow_add 2 53 shift).symm
    _ ≤ 2 ^ (unitPlaces - 50) :=
        Nat.pow_le_pow_right (by decide) (by rw [unitPlaces_eq]; omega)

/-- A number up to `2 ^ 128`, which every single-precision and every 64-bit whole number is, is
not rounded to infinity. -/
theorem isFinite_nearest {a b : Nat} (pos : 0 < b) (bound : a ≤ 2 ^ 128 * b) :
    (nearest a b).isFinite = true := by
  obtain ⟨rank, finite, exact⟩ :=
    exists_rank_of_bits (show 1 < 2 ^ 53 by decide) (Nat.le_refl 128)
  have atMost : a * unitsOfOne ≤ unitsAt rank * b := by
    rw [exact, Nat.one_mul, Nat.mul_right_comm]
    exact Nat.mul_le_mul_right _ bound
  exact decide_eq_true (Nat.lt_of_le_of_lt (rank_nearest_le pos atMost) finite)

/-- A whole number below `2 ^ 53` is a magnitude. -/
theorem units_nearest_of_lt {n : Nat} (small : n < 2 ^ 53) :
    (nearest n 1).units = n * unitsOfOne := by
  obtain ⟨rank, finite, exact⟩ := exists_rank_of_bits small (Nat.zero_le 128)
  rw [pow_zero, Nat.mul_one] at exact
  have rounded : nearest n 1 = ofRank rank :=
    nearest_of_units Nat.one_pos (by rw [exact, Nat.mul_one])
  rw [units, rounded, rank_ofRank (Nat.le_of_lt finite), exact]

/-- A whole number from `2 ^ 53` on is not rounded below it. -/
theorem le_units_nearest {n : Nat} (large : 2 ^ 53 ≤ n) :
    2 ^ 53 * unitsOfOne ≤ (nearest n 1).units := by
  obtain ⟨rank, finite, exact⟩ :=
    exists_rank_of_bits (show 1 < 2 ^ 53 by decide) (show 53 ≤ 128 by decide)
  rw [Nat.one_mul] at exact
  rw [← exact, units]
  refine unitsAt_strictMono.monotone (le_rank_nearest Nat.one_pos (Nat.le_of_lt finite) ?_)
  rw [exact, Nat.mul_one]
  exact Nat.mul_le_mul_right _ large

end Magnitude

/-- A whole number with a sign. -/
def withSign (negative : Bool) (n : Nat) : Int := if negative then -(n : Int) else n

namespace Binary64

open Magnitude

/-- A rounded whole number is recognised as itself below `2 ^ 53`, and is no small integer from
there on. -/
theorem smallInteger?_nearest (negative : Bool) (n : Nat) :
    (signed negative (nearest n 1)).smallInteger? =
      if n < 2 ^ 53 then some (Int64.ofInt (withSign negative n)) else none := by
  simp only [smallInteger?, Nat.pow_eq]
  by_cases small : n < 2 ^ 53
  · rw [units_nearest_of_lt small, Nat.mul_mod_left, Nat.mul_div_cancel _ unitsOfOne_pos,
      if_pos ⟨rfl, small⟩, if_pos small, withSign]
  · have bound := (Nat.le_div_iff_mul_le unitsOfOne_pos).2
      (le_units_nearest (Nat.le_of_not_lt small))
    rw [if_neg small, if_neg fun fits => absurd fits.2 (Nat.not_lt.2 bound)]

end Binary64

end PluralTemplate
