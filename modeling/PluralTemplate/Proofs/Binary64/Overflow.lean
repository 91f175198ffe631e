import PluralTemplate.Proofs.Decimal.ReadBack

/-!
# Numbers that are rounded to infinity

A number is rounded to infinity if it reaches the middle between the greatest finite magnitude and
`2 ^ 1024`, the number that would follow it (`nearest_eq_infinity_iff`). The greatest finite
magnitude has an odd rank, so the middle itself is rounded up.
-/

set_option autoImplicit false

namespace PluralTemplate.Magnitude

variable {a b rank : Nat}

theorem rank_infinity : infinity.rank = infinityRank := rank_ofRank (Nat.le_refl _)

theorem infinityRank_pos : 0 < infinityRank := by
  rw [infinityRank_eq]
  decide

/-- The rank below a quotient between two neighbours. -/
theorem rankBelow_div_eq (pos : 0 < b) (atLeast : unitsAt rank * b ≤ a)
    (less : a < unitsAt (rank + 1) * b) : rankBelow (a / b) = rank := by
  refine Nat.le_antisymm (Nat.le_of_lt_succ (Nat.lt_of_not_le fun next => ?_)) ?_
  · have reached := (Nat.le_div_iff_mul_le pos).1 (le_rankBelow_iff.1 next)
    exact absurd less (Nat.not_lt.2 reached)
  · exact le_rankBelow_iff.2 ((Nat.le_div_iff_mul_le pos).2 atLeast)

/-- A number is rounded past an odd rank if it reaches the middle to the next one. -/
theorem lt_rank_nearest_iff (pos : 0 < b) (odd : rank % 2 = 1) (inRange : rank < infinityRank) :
    rank < (nearest a b).rank ↔
      (unitsAt rank + unitsAt (rank + 1)) * b ≤ 2 * (a * unitsOfOne) := by
  have step : unitsAt rank * b < unitsAt (rank + 1) * b :=
    Nat.mul_lt_mul_of_pos_right (unitsAt_strictMono (Nat.lt_succ_self rank)) pos
  rw [Nat.add_mul]
  rcases Nat.lt_or_ge (a * unitsOfOne) (unitsAt rank * b) with before | atLeast
  · have stays := rank_nearest_le pos (Nat.le_of_lt before)
    omega
  · rcases Nat.lt_or_ge (a * unitsOfOne) (unitsAt (rank + 1) * b) with between | past
    · have below := rankBelow_div_eq pos atLeast between
      have here : (ofRank rank).rank = rank := rank_ofRank (Nat.le_of_lt inRange)
      have next : (ofRank (rank + 1)).rank = rank + 1 := rank_ofRank inRange
      simp only [nearest, below, odd, Nat.add_mul]
      split
      · omega
      · split <;> omega
    · have reached := le_rank_nearest pos inRange past
      omega

/-- The greatest finite magnitude is 53 ones with zeros behind them. -/
theorem unitsAt_greatest :
    unitsAt (infinityRank - 1) = (2 ^ 53 - 1) * 2 ^ (unitPlaces - 103) * unitsOfOne := by
  have leading := unitsAt_leading 2045 (show 2 ^ 52 ≤ 2 ^ 53 - 1 by decide) (by decide)
  have places : unitPlaces - 103 + unitPlaces = 2045 := by rw [unitPlaces_eq]
  rw [infinityRank_eq, show 2047 * 2 ^ 52 - 1 = 2045 * 2 ^ 52 + (2 ^ 53 - 1) by omega, leading,
    unitsOfOne, Nat.pow_eq, Nat.mul_assoc, ← pow_add, places]

/-- The middle between the greatest finite magnitude and `2 ^ 1024`. -/
def overflowBound : Nat := (2 ^ 54 - 1) * 2 ^ (unitPlaces - 104)

example : overflowBound = 2 ^ 1024 - 2 ^ 970 := by decide +kernel

theorem double_overflowBound :
    unitsAt (infinityRank - 1) + unitsAt infinityRank = 2 * (overflowBound * unitsOfOne) := by
  have halves : 2 * 2 ^ (unitPlaces - 104) = 2 ^ (unitPlaces - 103) := by
    rw [← pow_succ', unitPlaces_eq]
  have behind : 2 ^ (unitPlaces - 50) = 2 ^ 53 * 2 ^ (unitPlaces - 103) := by
    rw [← pow_add, unitPlaces_eq]
  have ones : 2 ^ 53 - 1 + 2 ^ 53 = 2 ^ 54 - 1 := by decide
  calc unitsAt (infinityRank - 1) + unitsAt infinityRank
    _ = (2 ^ 53 - 1 + 2 ^ 53) * 2 ^ (unitPlaces - 103) * unitsOfOne := by
      rw [unitsAt_greatest, unitsAt_infinityRank, behind, Nat.add_mul, Nat.add_mul]
    _ = (2 ^ 54 - 1) * (2 * 2 ^ (unitPlaces - 104)) * unitsOfOne := by rw [ones, halves]
    _ = 2 * (overflowBound * unitsOfOne) := by
      rw [Nat.mul_left_comm, Nat.mul_assoc 2, overflowBound]

/-- The middle has 309 digits. -/
theorem lt_of_overflowBound_lt_pow {count : Nat} (reached : overflowBound < 10 ^ count) :
    308 < count := by
  have bound : 10 ^ 308 ≤ overflowBound := by decide +kernel
  have grows : ∀ digits, count ≤ digits → 10 ^ count ≤ 10 ^ digits :=
    fun _ => Nat.pow_le_pow_right (by decide)
  refine Nat.lt_of_not_le fun few => ?_
  exact absurd ((grows 308 few).trans bound) (Nat.not_le_of_lt reached)

/-- A quotient is rounded to infinity if it reaches the middle. -/
theorem nearest_eq_infinity_iff (pos : 0 < b) :
    nearest a b = infinity ↔ overflowBound * b ≤ a := by
  have last : infinityRank - 1 < infinityRank := Nat.sub_one_lt_of_lt infinityRank_pos
  have odd : (infinityRank - 1) % 2 = 1 := by
    rw [infinityRank_eq]
    decide
  have next : infinityRank - 1 + 1 = infinityRank := Nat.succ_pred_eq_of_pos infinityRank_pos
  have past := lt_rank_nearest_iff (a := a) pos odd last
  rw [next, double_overflowBound, Nat.mul_assoc, Nat.mul_le_mul_left_iff Nat.two_pos,
    Nat.mul_right_comm, Nat.mul_le_mul_right_iff unitsOfOne_pos] at past
  rw [← past]
  constructor
  · intro infinite
    rw [infinite, rank_infinity]
    exact last
  · intro beyond
    have atMost := (nearest a b).rank_le
    apply eq_of_rank_eq
    rw [rank_infinity]
    omega

end PluralTemplate.Magnitude
