import PluralTemplate.Proofs.Selection.ByParts

/-!
# Intervals that divide the line of numbers

Boundaries cut the line of all numbers, both infinities included. Each is a number, and falls to
one of the two intervals that meet there. So an interval between two boundaries contains what is
past the one and not past the other (`Boundary.contains_between`), and of the intervals between
increasing boundaries a number is in exactly one (`Boundary.countP_intervals`).

Where the intervals of a variant set are these, in any order, and nothing is listed explicitly,
the interval of a quantity selects its text, and neither plain parts nor locales matter.
-/

set_option autoImplicit false

namespace PluralTemplate

/-! ## Places on the line -/

namespace Binary64

variable {x y : Binary64} {p q : Int}

theorem exists_position (isNumber : x ≠ .nan) : ∃ p, x.position = some p := by
  cases x with
  | nan => exact absurd rfl isNumber
  | signed negative m => exact ⟨_, rfl⟩

theorem below_of_position (xPlace : x.position = some p) (yPlace : y.position = some q) :
    x.below y = decide (p < q) := by
  rw [below, xPlace, yPlace]

theorem same_of_position (xPlace : x.position = some p) (yPlace : y.position = some q) :
    x.same y = decide (p = q) := by
  rw [same, xPlace, yPlace]
  rfl

theorem exists_positions_of_below (less : x.below y = true) :
    ∃ p q, x.position = some p ∧ y.position = some q ∧ p < q := by
  cases xPlace : x.position with
  | none => simp [below, xPlace] at less
  | some p =>
    cases yPlace : y.position with
    | none => simp [below, xPlace, yPlace] at less
    | some q =>
      rw [below_of_position xPlace yPlace] at less
      exact ⟨p, q, rfl, rfl, of_decide_eq_true less⟩

/-- No place is further out than those of the infinities. -/
theorem position_bounds (place : x.position = some p) :
    -(infinityRank : Int) ≤ p ∧ p ≤ infinityRank := by
  cases x with
  | nan => cases place
  | signed negative m =>
    obtain rfl := Option.some.inj place
    have bound := m.rank_le
    split <;> omega

/-- The place of a finite number lies between them. -/
theorem position_bounds_of_isFinite (finite : x.isFinite = true) :
    ∃ p, x.position = some p ∧ -(infinityRank : Int) < p ∧ p < infinityRank := by
  cases x with
  | nan => cases finite
  | signed negative m =>
    have bound : m.rank < infinityRank := of_decide_eq_true finite
    refine ⟨_, rfl, ?_⟩
    split <;> omega

end Binary64

theorem Quantity.value_ne_nan (q : Quantity) : q.value ≠ .nan := by
  cases q with
  | integer n => exact Binary64.noConfusion
  | measure x isNumber _ => exact isNumber

/-! ## Boundaries -/

/-- A number at which the line is cut. It falls to the interval below, or else to the one above. -/
structure Boundary where
  number : Binary64
  fallsBelow : Bool

namespace Boundary

/-- The boundary in front of all numbers. -/
def bottom : Boundary := ⟨.signed true .infinity, false⟩

/-- The boundary behind all numbers. -/
def top : Boundary := ⟨.signed false .infinity, true⟩

/-- The interval between two boundaries includes those of the two numbers that fall to it. -/
def between (lower upper : Boundary) : Interval :=
  ⟨lower.number, upper.number, !lower.fallsBelow, upper.fallsBelow⟩

/-- The intervals behind a boundary that others cut, the last of them up to infinity. -/
def intervalsFrom (lower : Boundary) : List Boundary → List Interval
  | [] => [lower.between top]
  | upper :: rest => lower.between upper :: upper.intervalsFrom rest

/-- The intervals into which boundaries cut the line. -/
def intervals (boundaries : List Boundary) : List Interval := bottom.intervalsFrom boundaries

/-- One boundary comes before another. -/
def Before (b c : Boundary) : Prop := b.number.below c.number = true

instance (b c : Boundary) : Decidable (b.Before c) := inferInstanceAs (Decidable (_ = true))

/-- Whether a number falls to what is above the boundary. -/
def passedBy (b : Boundary) (x : Binary64) : Bool :=
  b.number.below x || (!b.fallsBelow && x.same b.number)

theorem length_intervalsFrom (lower : Boundary) (boundaries : List Boundary) :
    (lower.intervalsFrom boundaries).length = boundaries.length + 1 := by
  induction boundaries generalizing lower with
  | nil => rfl
  | cons upper rest ih => exact congrArg (· + 1) (ih upper)

/-! ## What an interval contains -/

section

variable {lower upper : Boundary} {x : Binary64} (isNumber : x ≠ .nan)

include isNumber

/-- The interval between two boundaries contains what is past the lower and not past the upper. -/
theorem contains_between (ordered : lower.Before upper) :
    (lower.between upper).contains x = (lower.passedBy x && !upper.passedBy x) := by
  obtain ⟨low, high, lowPlace, highPlace, less⟩ := Binary64.exists_positions_of_below ordered
  obtain ⟨p, place⟩ := Binary64.exists_position isNumber
  simp only [between, Interval.contains, passedBy, Binary64.same_of_position place lowPlace,
    Binary64.same_of_position place highPlace, Binary64.below_of_position lowPlace place,
    Binary64.below_of_position place highPlace, Binary64.below_of_position highPlace place]
  -- What is left is about three places on the line and two choices.
  rw [Bool.eq_iff_iff]
  cases lower.fallsBelow <;> cases upper.fallsBelow <;> simp <;> omega

/-- What is past a boundary is past those that come before it. -/
theorem passedBy_of_before (ordered : lower.Before upper) (past : upper.passedBy x = true) :
    lower.passedBy x = true := by
  obtain ⟨low, high, lowPlace, highPlace, less⟩ := Binary64.exists_positions_of_below ordered
  obtain ⟨p, place⟩ := Binary64.exists_position isNumber
  simp only [passedBy, Binary64.same_of_position place highPlace,
    Binary64.below_of_position highPlace place, Bool.or_eq_true, Bool.and_eq_true,
    decide_eq_true_eq] at past
  have above : low < p := by omega
  rw [passedBy, Binary64.below_of_position lowPlace place, decide_eq_true above, Bool.true_or]

theorem passedBy_bottom : bottom.passedBy x = true := by
  obtain ⟨p, place⟩ := Binary64.exists_position isNumber
  have bottomPlace : bottom.number.position = some (-(infinityRank : Int)) := rfl
  have bounds := Binary64.position_bounds place
  simp only [passedBy, Binary64.below_of_position bottomPlace place,
    Binary64.same_of_position place bottomPlace, Bool.or_eq_true, Bool.and_eq_true,
    decide_eq_true_eq]
  by_cases least : p = -(infinityRank : Int)
  · exact .inr ⟨rfl, least⟩
  · exact .inl (by omega)

theorem passedBy_top : top.passedBy x = false := by
  obtain ⟨p, place⟩ := Binary64.exists_position isNumber
  have topPlace : top.number.position = some (infinityRank : Int) := rfl
  have bounds := Binary64.position_bounds place
  have notAbove : ¬ (infinityRank : Int) < p := by omega
  rw [passedBy, Binary64.below_of_position topPlace place, decide_eq_false notAbove]
  rfl

end

/-- Finite numbers are boundaries between the first and the last. -/
theorem between_ends_of_isFinite {b : Boundary} (finite : b.number.isFinite = true) :
    bottom.Before b ∧ b.Before top := by
  obtain ⟨p, place, above, below⟩ := Binary64.position_bounds_of_isFinite finite
  have bottomPlace : bottom.number.position = some (-(infinityRank : Int)) := rfl
  have topPlace : top.number.position = some (infinityRank : Int) := rfl
  rw [Before, Before, Binary64.below_of_position bottomPlace place,
    Binary64.below_of_position place topPlace]
  exact ⟨decide_eq_true above, decide_eq_true below⟩

/-! ## The interval of a number -/

/-- Of the intervals behind a boundary a number is in one if it is past the boundary, and in none
otherwise. -/
theorem countP_intervalsFrom {lower : Boundary} {boundaries : List Boundary} {x : Binary64}
    (isNumber : x ≠ .nan) (increasing : (lower :: boundaries).Pairwise Before)
    (last : ∀ b ∈ lower :: boundaries, b.Before top) :
    (lower.intervalsFrom boundaries).countP (·.contains x) =
      if lower.passedBy x then 1 else 0 := by
  induction boundaries generalizing lower with
  | nil =>
    have here := contains_between isNumber (last lower List.mem_cons_self)
    rw [passedBy_top isNumber, Bool.not_false, Bool.and_true] at here
    rw [intervalsFrom, List.countP_singleton, here]
  | cons upper rest ih =>
    obtain ⟨before, increasing⟩ := List.pairwise_cons.1 increasing
    have ordered : lower.Before upper := before upper List.mem_cons_self
    have here := contains_between isNumber ordered
    have behind := ih increasing fun b member => last b (List.mem_cons_of_mem _ member)
    rw [intervalsFrom, List.countP_cons, behind, here]
    -- Past the next boundary the number is behind it, and not in the first interval.
    cases passed : upper.passedBy x with
    | true => simp [passedBy_of_before isNumber ordered passed]
    | false => simp

/-- Every number is in exactly one of the intervals. -/
theorem countP_intervals {boundaries : List Boundary}
    (finite : ∀ b ∈ boundaries, b.number.isFinite = true)
    (increasing : boundaries.Pairwise Before) {x : Binary64} (isNumber : x ≠ .nan) :
    (intervals boundaries).countP (·.contains x) = 1 := by
  have first : ∀ b ∈ boundaries, bottom.Before b := fun b member =>
    (between_ends_of_isFinite (finite b member)).1
  have last : ∀ b ∈ bottom :: boundaries, b.Before top := by
    intro b member
    rcases List.mem_cons.1 member with rfl | member
    · decide
    · exact (between_ends_of_isFinite (finite b member)).2
  rw [intervals, countP_intervalsFrom isNumber (List.pairwise_cons.2 ⟨first, increasing⟩) last,
    if_pos (passedBy_bottom isNumber)]

end Boundary

/-- Where one interval of a list contains a number, it is found there in whatever order the list
is searched. -/
theorem exists_find?_of_countP {entries : List (Interval × String)} {x : Binary64}
    (one : entries.countP (fun entry => entry.1.contains x) = 1) :
    ∃ entry ∈ entries, entry.1.contains x = true ∧ ∀ others : List (Interval × String),
      others.Perm entries → others.find? (fun entry => entry.1.contains x) = some entry := by
  rw [List.countP_eq_length_filter] at one
  obtain ⟨entry, only⟩ := List.length_eq_one_iff.1 one
  obtain ⟨member, contained⟩ := List.mem_filter.1 (only ▸ List.mem_singleton_self entry)
  refine ⟨entry, member, contained, fun others perm => ?_⟩
  have kept := perm.filter fun entry => entry.1.contains x
  rw [only, List.perm_singleton] at kept
  rw [← List.head?_filter, kept]
  rfl

/-- Take finite boundaries in increasing order, and let each fall to either of its neighbours.
They give one interval more than there are of them, and every number is in exactly one. So give
each interval a text: for every quantity one of these contains its value, and its text is selected
from every variant set that holds the same intervals and texts in any order and lists nothing
explicitly, in every locale. -/
theorem complementary_intervals_partition {boundaries : List Boundary}
    (finite : ∀ b ∈ boundaries, b.number.isFinite = true)
    (increasing : boundaries.Pairwise Boundary.Before) :
    (Boundary.intervals boundaries).length = boundaries.length + 1 ∧
    (∀ x : Binary64, x ≠ .nan →
      (Boundary.intervals boundaries).countP (fun i => i.contains x) = 1) ∧
    ∀ entries : List (Interval × String), entries.map Prod.fst = Boundary.intervals boundaries →
      ∀ q : Quantity, ∃ entry ∈ entries, entry.1.contains q.value = true ∧
        ∀ set : VariantSet, set.intervals.Perm entries → set.explicit = .empty →
          ∀ (locale : String) (registry : Registry), set.select q locale registry = entry.2 := by
  have one : ∀ x : Binary64, x ≠ .nan →
      (Boundary.intervals boundaries).countP (fun i => i.contains x) = 1 := fun x isNumber =>
    Boundary.countP_intervals finite increasing isNumber
  refine ⟨Boundary.length_intervalsFrom _ _, one, fun entries intervals q => ?_⟩
  have oneEntry := one q.value q.value_ne_nan
  rw [← intervals, List.countP_map] at oneEntry
  obtain ⟨entry, member, contained, found⟩ := exists_find?_of_countP oneEntry
  refine ⟨entry, member, contained, fun set perm unlisted locale registry => ?_⟩
  rw [VariantSet.select_eq_getD, unlisted, Dictionary.get?_empty, found _ perm]
  rfl

/-- Minus one and a half falls to the interval above it and zero to the one below. Written in
another order, with a plain part between them, the three intervals select alike. -/
theorem complementary_intervals_partition_three :
    let boundaries : List Boundary := [⟨.ofWord 0xBFF8000000000000, false⟩, ⟨.ofInt 0, true⟩]
    let set := VariantSet.ofTemplate "]0,Inf]over|other|[-1.5,0]within|[-Inf,-1.5[under" "|"
    (∀ x : Binary64, x ≠ .nan →
      (Boundary.intervals boundaries).countP (fun i => i.contains x) = 1) ∧
    ∀ (locale : String) (registry : Registry),
      set.select (.integer 0) locale registry = "within" := by
  intro boundaries set
  have finite : ∀ b ∈ boundaries, b.number.isFinite = true := by decide +kernel
  have increasing : boundaries.Pairwise Boundary.Before := by decide +kernel
  have partition := complementary_intervals_partition finite increasing
  refine ⟨partition.2.1, fun locale registry => ?_⟩
  obtain ⟨entry, member, contained, selects⟩ :=
    partition.2.2 ((Boundary.intervals boundaries).zip ["under", "within", "over"])
      (by decide +kernel) (.integer 0)
  have selected := selects set (by decide +kernel) (by decide +kernel) locale registry
  have within : ∀ entry ∈ (Boundary.intervals boundaries).zip ["under", "within", "over"],
      entry.1.contains (Quantity.integer 0).value = true → entry.2 = "within" := by
    decide +kernel
  rw [selected, within entry member contained]

end PluralTemplate
