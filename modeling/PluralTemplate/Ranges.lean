/-!
# Ranges of whole numbers

A list of ranges stands for the numbers that lie in one of them.
-/

set_option autoImplicit false

namespace PluralTemplate

/-- Ranges of whole numbers, each with both ends included. -/
abbrev Ranges := List (Nat × Nat)

namespace Ranges

/-- Whether one of the ranges holds a number. -/
def contain (ranges : Ranges) (x : Nat) : Bool :=
  ranges.any fun (low, high) => low ≤ x && x ≤ high

theorem contain_iff (ranges : Ranges) (x : Nat) :
    contain ranges x = true ↔ ∃ range ∈ ranges, range.1 ≤ x ∧ x ≤ range.2 := by
  simp [contain]

end Ranges

end PluralTemplate
