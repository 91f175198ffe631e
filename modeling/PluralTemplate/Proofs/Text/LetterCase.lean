import Mathlib.Data.List.Forall2

/-!
# Texts that are equal but for letter case

Letter case is that of ASCII letters only: a capital stands thirty-two places in front of its small
letter, and every other character is equal to itself alone. So two texts are equal but for letter
case just when they are equal once both are put in lower case (`map_toLower_eq_iff`).
-/

set_option autoImplicit false

namespace PluralTemplate.Text

/-- Two characters that are equal, or the capital and the small form of one ASCII letter. -/
def SameLetter (c d : Char) : Prop :=
  c = d ∨ (c.isUpper = true ∧ d.toNat = c.toNat + 32) ∨
    (d.isUpper = true ∧ c.toNat = d.toNat + 32)

def SameButCase (s t : List Char) : Prop := List.Forall₂ SameLetter s t

variable {c d : Char} {s t u : List Char}

theorem isUpper_iff_between : c.isUpper = true ↔ c.val ≥ 'A'.val ∧ c.val ≤ 'Z'.val :=
  decide_eq_true_iff

theorem isUpper_iff : c.isUpper = true ↔ 65 ≤ c.toNat ∧ c.toNat ≤ 90 := by
  rw [isUpper_iff_between, ge_iff_le, UInt32.le_iff_toNat_le, UInt32.le_iff_toNat_le]
  rfl

theorem toNat_toLower (c : Char) :
    c.toLower.toNat = if c.isUpper then c.toNat + 32 else c.toNat := by
  unfold Char.toLower
  by_cases upper : c.isUpper = true
  · have range : c.val.toNat ≤ 90 := (isUpper_iff.1 upper).2
    rw [if_pos upper, dif_pos (isUpper_iff_between.1 upper)]
    change (c.val.toNat + 32) % 2 ^ 32 = c.val.toNat + 32
    omega
  · rw [if_neg upper, dif_neg (mt isUpper_iff_between.2 upper)]

theorem toLower_eq_iff : c.toLower = d.toLower ↔ SameLetter c d := by
  rw [SameLetter, ← Char.toNat_inj, ← Char.toNat_inj, toNat_toLower, toNat_toLower]
  simp only [isUpper_iff]
  split <;> split <;> omega

/-- Letter case does not count just when putting both texts in lower case makes them equal. -/
theorem map_toLower_eq_iff : s.map Char.toLower = t.map Char.toLower ↔ SameButCase s t := by
  rw [← List.forall₂_eq_eq_eq, List.forall₂_map_left_iff, List.forall₂_map_right_iff, SameButCase]
  simp only [toLower_eq_iff]

theorem SameButCase.symm (same : SameButCase s t) : SameButCase t s :=
  map_toLower_eq_iff.1 (map_toLower_eq_iff.2 same).symm

theorem SameButCase.trans (first : SameButCase s t) (second : SameButCase t u) :
    SameButCase s u :=
  map_toLower_eq_iff.1 ((map_toLower_eq_iff.2 first).trans (map_toLower_eq_iff.2 second))

end PluralTemplate.Text
