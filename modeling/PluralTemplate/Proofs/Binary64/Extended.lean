import Mathlib.Data.EReal.Operations
import PluralTemplate.Proofs.Decimal.ReadBack

/-!
# Binary64 numbers as extended reals

A magnitude is its number of units, counted in ones, and infinity is the greatest extended real
number. Ranks with a sign are compared just as the numbers that they stand for (`place_lt_iff`),
so comparing two binary64 numbers is comparing two extended reals, unless one is a NaN.
-/

set_option autoImplicit false

namespace PluralTemplate

namespace Magnitude

/-- The extended real number of a magnitude. -/
noncomputable def toEReal (m : Magnitude) : EReal :=
  if m.isFinite then ((m.units / unitsOfOne : ℝ) : EReal) else ⊤

theorem toEReal_of_lt {a b : Magnitude} (less : a.rank < b.rank) : a.toEReal < b.toEReal := by
  have finite : a.isFinite = true := decide_eq_true (Nat.lt_of_lt_of_le less b.rank_le)
  rw [toEReal, if_pos finite, toEReal]
  split
  · have units : (a.units : ℝ) < b.units := Nat.cast_lt.2 (unitsAt_strictMono less)
    have one : (0 : ℝ) < unitsOfOne := Nat.cast_pos.2 unitsOfOne_pos
    exact EReal.coe_lt_coe_iff.2 (div_lt_div_of_pos_right units one)
  · exact EReal.coe_lt_top _

theorem toEReal_lt_iff {a b : Magnitude} : a.toEReal < b.toEReal ↔ a.rank < b.rank := by
  refine ⟨fun less => ?_, toEReal_of_lt⟩
  by_contra notLess
  rcases Nat.eq_or_lt_of_le (Nat.le_of_not_lt notLess) with same | greater
  · rw [eq_of_rank_eq same] at less
    exact lt_irrefl _ less
  · exact lt_asymm less (toEReal_of_lt greater)

theorem toEReal_zero : zero.toEReal = 0 := by
  have finite : zero.isFinite = true := by decide
  have none : zero.units = 0 := unitsAt_of_lt (by decide)
  rw [toEReal, if_pos finite, none, Nat.cast_zero, zero_div, EReal.coe_zero]

theorem toEReal_pos_iff {m : Magnitude} : 0 < m.toEReal ↔ 0 < m.rank := by
  rw [← toEReal_zero, toEReal_lt_iff]
  rfl

theorem toEReal_nonneg (m : Magnitude) : 0 ≤ m.toEReal := by
  rw [← toEReal_zero, ← not_lt, toEReal_lt_iff]
  exact Nat.not_lt_zero _

end Magnitude

namespace Binary64

/-- The extended real number that a number stands for. A NaN stands for none, and is given zero. -/
noncomputable def toEReal : Binary64 → EReal
  | nan => 0
  | signed negative m => if negative then -m.toEReal else m.toEReal

/-- The order of ranks with a sign is that of the numbers they stand for. -/
theorem place_lt_iff (xNegative yNegative : Bool) (a b : Magnitude) :
    (if xNegative then -(a.rank : Int) else a.rank) <
        (if yNegative then -(b.rank : Int) else b.rank) ↔
      (signed xNegative a).toEReal < (signed yNegative b).toEReal := by
  cases xNegative with
  | false =>
    cases yNegative with
    | false =>
      change (a.rank : Int) < b.rank ↔ a.toEReal < b.toEReal
      rw [Magnitude.toEReal_lt_iff, Int.ofNat_lt]
    | true =>
      change (a.rank : Int) < -b.rank ↔ a.toEReal < -b.toEReal
      have below : -b.toEReal ≤ 0 := EReal.neg_le_zero.2 b.toEReal_nonneg
      exact iff_of_false (by omega) (not_lt.2 (below.trans a.toEReal_nonneg))
  | true =>
    cases yNegative with
    | false =>
      change -(a.rank : Int) < b.rank ↔ -a.toEReal < b.toEReal
      have ranks : -(a.rank : Int) < b.rank ↔ 0 < a.rank ∨ 0 < b.rank := by omega
      rw [ranks, ← Magnitude.toEReal_pos_iff, ← Magnitude.toEReal_pos_iff]
      constructor
      · rintro (some | some)
        · exact (EReal.neg_lt_zero.2 some).trans_le b.toEReal_nonneg
        · exact (EReal.neg_le_zero.2 a.toEReal_nonneg).trans_lt some
      · intro less
        by_contra none
        obtain ⟨aZero, bZero⟩ := not_or.1 none
        have above : b.toEReal ≤ -a.toEReal :=
          (not_lt.1 bZero).trans (EReal.neg_nonneg.2 (not_lt.1 aZero))
        exact not_lt.2 above less
    | true =>
      change -(a.rank : Int) < -b.rank ↔ -a.toEReal < -b.toEReal
      rw [EReal.neg_lt_neg_iff, Magnitude.toEReal_lt_iff, Int.neg_lt_neg_iff, Int.ofNat_lt]

theorem below_iff {x y : Binary64} (xNumber : x ≠ .nan) (yNumber : y ≠ .nan) :
    x.below y = true ↔ x.toEReal < y.toEReal := by
  cases x with
  | nan => exact absurd rfl xNumber
  | signed xNegative a =>
    cases y with
    | nan => exact absurd rfl yNumber
    | signed yNegative b =>
      rw [← place_lt_iff]
      exact decide_eq_true_iff

theorem same_iff {x y : Binary64} (xNumber : x ≠ .nan) (yNumber : y ≠ .nan) :
    x.same y = true ↔ x.toEReal = y.toEReal := by
  have apart : x.same y = true ↔ ¬ x.below y = true ∧ ¬ y.below x = true := by
    cases x with
    | nan => exact absurd rfl xNumber
    | signed xNegative a =>
      cases y with
      | nan => exact absurd rfl yNumber
      | signed yNegative b =>
        simp only [same, below, position, beq_iff_eq, decide_eq_true_eq]
        omega
  rw [apart, below_iff xNumber yNumber, below_iff yNumber xNumber, not_lt, not_lt, and_comm]
  exact le_antisymm_iff.symm

end Binary64

end PluralTemplate
