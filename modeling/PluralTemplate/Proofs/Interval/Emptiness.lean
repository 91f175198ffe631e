import PluralTemplate.Proofs.Binary64.Extended
import PluralTemplate.Proofs.Lint.Positions
import PluralTemplate.Proofs.Part.Reading
import PluralTemplate.Selection

/-!
# Empty intervals

An interval contains an extended real number that equals an included bound or lies strictly
between the bounds. An included bound counts even where the bounds are in the wrong order, yet
such an interval is taken for empty. So an interval that contains nothing is taken for empty, and
of those taken for empty just these contain something (`Interval.isEmpty_iff_not_covers`). The
warning about empty intervals goes by what is taken for empty, and is wrong about the same ones.
-/

set_option autoImplicit false

namespace PluralTemplate

/-! ## What an interval contains -/

namespace Interval

/-- The extended real numbers that an interval contains. -/
def Covers (i : Interval) (x : EReal) : Prop :=
  (i.lowerInclusive = true ∧ x = i.lower.toEReal) ∨
  (i.upperInclusive = true ∧ x = i.upper.toEReal) ∨
  (i.lower.toEReal < x ∧ x < i.upper.toEReal)

/-- Neither bound is a NaN. -/
structure Bounded (i : Interval) : Prop where
  lower_ne : i.lower ≠ .nan
  upper_ne : i.upper ≠ .nan

/-- The bounds are in the wrong order, and at least one of them is included. -/
def IncludesReversedBound (i : Interval) : Prop :=
  i.upper.toEReal < i.lower.toEReal ∧ (i.lowerInclusive = true ∨ i.upperInclusive = true)

variable {i : Interval}

theorem contains_iff_covers (bounded : i.Bounded) {x : Binary64} (isNumber : x ≠ .nan) :
    i.contains x = true ↔ i.Covers x.toEReal := by
  simp only [contains, Bool.or_eq_true, Bool.and_eq_true, or_assoc]
  rw [Binary64.same_iff isNumber bounded.lower_ne, Binary64.same_iff isNumber bounded.upper_ne,
    Binary64.below_iff bounded.lower_ne isNumber, Binary64.below_iff isNumber bounded.upper_ne]
  exact Iff.rfl

theorem isEmpty_iff (bounded : i.Bounded) :
    i.isEmpty = true ↔ i.upper.toEReal < i.lower.toEReal ∨
      i.lower.toEReal = i.upper.toEReal ∧ i.lowerInclusive = false ∧ i.upperInclusive = false := by
  simp only [isEmpty, Bool.or_eq_true, Bool.and_eq_true, Bool.not_eq_true', and_assoc]
  rw [Binary64.below_iff bounded.upper_ne bounded.lower_ne,
    Binary64.same_iff bounded.lower_ne bounded.upper_ne]

/-- An included bound is contained, whatever the order of the bounds. -/
theorem exists_covers_of_included (included : i.lowerInclusive = true ∨ i.upperInclusive = true) :
    ∃ x, i.Covers x := by
  rcases included with lower | upper
  · exact ⟨_, .inl ⟨lower, rfl⟩⟩
  · exact ⟨_, .inr (.inl ⟨upper, rfl⟩)⟩

/-- Taken for empty are the intervals that contain nothing, and those with an included bound where
the bounds are in the wrong order. -/
theorem isEmpty_iff_not_covers (bounded : i.Bounded) :
    i.isEmpty = true ↔ (¬ ∃ x, i.Covers x) ∨ i.IncludesReversedBound := by
  rw [isEmpty_iff bounded]
  constructor
  · rintro (reversed | ⟨same, lowerOpen, upperOpen⟩)
    · by_cases included : i.lowerInclusive = true ∨ i.upperInclusive = true
      · exact .inr ⟨reversed, included⟩
      · refine .inl ?_
        rintro ⟨x, ⟨lower, -⟩ | ⟨upper, -⟩ | ⟨above, below⟩⟩
        · exact included (.inl lower)
        · exact included (.inr upper)
        · exact lt_asymm reversed (above.trans below)
    · refine .inl ?_
      rintro ⟨x, ⟨lower, -⟩ | ⟨upper, -⟩ | ⟨above, below⟩⟩
      · cases lowerOpen.symm.trans lower
      · cases upperOpen.symm.trans upper
      · exact (above.trans below).ne same
  · rintro (nothing | ⟨reversed, -⟩)
    · rcases lt_trichotomy i.lower.toEReal i.upper.toEReal with ordered | same | reversed
      · exact absurd ((exists_between ordered).imp fun x between => .inr (.inr between)) nothing
      · have excluded := not_or.1 (mt exists_covers_of_included nothing)
        exact .inr ⟨same, Bool.not_eq_true _ ▸ excluded.1, Bool.not_eq_true _ ▸ excluded.2⟩
      · exact .inl reversed
    · exact .inl reversed

/-- Being taken for empty means containing nothing, but for those intervals. -/
theorem isEmpty_exact_iff (bounded : i.Bounded) :
    (i.isEmpty = true ↔ ¬ ∃ x, i.Covers x) ↔ ¬ i.IncludesReversedBound := by
  rw [isEmpty_iff_not_covers bounded]
  constructor
  · intro exact reversed
    exact exact.1 (.inr reversed) (exists_covers_of_included reversed.2)
  · intro ordered
    exact or_iff_left ordered

end Interval

/-! ## The rules of parts -/

theorem Grammar.Literal.value_ne_nan (l : Grammar.Literal) : l.value ≠ .nan :=
  Binary64.noConfusion

/-- An interval that is written has no NaN for a bound. -/
theorem Grammar.IntervalRule.bounded (r : Grammar.IntervalRule) : r.interval.Bounded where
  lower_ne := by
    change r.lower.item.value ≠ .nan
    cases r.lower.item with
    | minusInfinity => exact Binary64.noConfusion
    | literal l => exact l.value_ne_nan
  upper_ne := by
    change r.upper.item.value ≠ .nan
    cases r.upper.item with
    | infinity plus => exact Binary64.noConfusion
    | literal l => exact l.value_ne_nan

theorem Part.bounded_of_ofText {text template : String} {rule : Interval}
    (ruled : Part.ofText text = .interval rule template) : rule.Bounded := by
  obtain ⟨r, -, -, -, rfl, -⟩ := Grammar.ofText_eq_interval_iff.1 ruled
  exact r.bounded

/-! ## The warning -/

namespace Lint

open Text (byteCount)

variable {index offset gap : Nat} {bound : Dictionary Nat} {rule : Interval}

theorem emptyInterval_not_mem_rebind {place start : Nat} (values : List String) :
    Warning.emptyInterval place start rule ∉ (rebind index offset bound values).1 := by
  intro member
  obtain ⟨previous, value, other⟩ := exists_duplicate_of_mem_rebind member
  cases other

/-- A part is warned about as an empty interval if it has one that is taken for empty. -/
theorem emptyInterval_mem_ofPart_iff {place start : Nat} {text : String} :
    Warning.emptyInterval place start rule ∈ (ofPart index offset bound text).1 ↔
      place = index ∧ start = offset ∧ rule.isEmpty = true ∧
        ∃ template, Part.ofText text = .interval rule template := by
  unfold ofPart
  cases parsed : Part.ofText text with
  | explicit values template =>
    refine iff_of_false (emptyInterval_not_mem_rebind values) ?_
    rintro ⟨-, -, -, _, other⟩
    cases other
  | interval found template =>
    dsimp only
    constructor
    · intro member
      split at member
      · rename_i empty
        obtain ⟨rfl, rfl, rfl⟩ := Warning.emptyInterval.inj (List.mem_singleton.1 member)
        exact ⟨rfl, rfl, empty, template, rfl⟩
      · cases member
    · rintro ⟨rfl, rfl, empty, _, same⟩
      obtain ⟨rfl, -⟩ := Part.interval.inj same
      rw [if_pos empty]
      exact List.mem_singleton_self _
  | plain _ =>
    dsimp only
    refine iff_of_false (fun member => ?_) ?_
    · split at member
      · cases List.mem_singleton.1 member
      · cases member
    · rintro ⟨-, -, -, _, other⟩
      cases other

theorem emptyInterval_mem_ofParts_iff (parts : List String) (place : Nat) :
    (∃ start, Warning.emptyInterval (index + place) start rule ∈
        ofParts gap index offset bound parts) ↔
      rule.isEmpty = true ∧ ∃ part template, parts[place]? = some part ∧
        Part.ofText part = .interval rule template := by
  induction parts generalizing index offset bound place with
  | nil => simp [ofParts]
  | cons text rest ih =>
    cases place with
    | zero =>
      refine (exists_congr fun start => mem_ofParts_cons_iff_of_eq rfl).trans ?_
      simp [emptyInterval_mem_ofPart_iff, Warning.index]
    | succ place =>
      have behind : index < index + (place + 1) := by omega
      have later : index + (place + 1) = index + 1 + place := by omega
      refine (exists_congr fun start => mem_ofParts_cons_iff_of_lt behind).trans ?_
      rw [later, List.getElem?_cons_succ]
      exact ih place

/-- A part with an interval is warned about if the interval is taken for empty. -/
theorem emptyInterval_mem_ofTemplate_iff {template delimiter part text : String} {place : Nat}
    (here : (Text.split delimiter template)[place]? = some part)
    (ruled : Part.ofText part = .interval rule text) :
    (∃ start, Warning.emptyInterval place start rule ∈ ofTemplate template delimiter) ↔
      rule.isEmpty = true := by
  have reported : (∃ start, Warning.emptyInterval (0 + place) start rule ∈
      ofTemplate template delimiter) ↔ _ :=
    emptyInterval_mem_ofParts_iff (Text.split delimiter template) place
  rw [Nat.zero_add] at reported
  exact reported.trans (and_iff_left ⟨part, text, here, ruled⟩)

/-- The interval of a part has numbers for bounds. One with numbers for bounds is taken for empty
if it contains nothing, and also if it includes a bound where the bounds are in the wrong order,
though it contains that bound. So the warning about a part means that its interval contains nothing
just for intervals that are not of this second kind. -/
theorem emptyInterval_reported_iff (rule : Interval) :
    (∀ part text : String, Part.ofText part = .interval rule text → rule.Bounded) ∧
    (rule.Bounded →
      (∀ x : Binary64, x ≠ .nan → (rule.contains x = true ↔ rule.Covers x.toEReal)) ∧
      (rule.isEmpty = true ↔ (¬ ∃ x, rule.Covers x) ∨ rule.IncludesReversedBound) ∧
      ((rule.isEmpty = true ↔ ¬ ∃ x, rule.Covers x) ↔ ¬ rule.IncludesReversedBound)) ∧
    ∀ (template delimiter part text : String) (place : Nat),
      (Text.split delimiter template)[place]? = some part →
      Part.ofText part = .interval rule text →
        (((∃ start, Warning.emptyInterval place start rule ∈ ofTemplate template delimiter) ↔
          ¬ ∃ x, rule.Covers x) ↔ ¬ rule.IncludesReversedBound) := by
  refine ⟨fun part text ruled => Part.bounded_of_ofText ruled, fun bounded => ?_, ?_⟩
  · exact ⟨fun x isNumber => Interval.contains_iff_covers bounded isNumber,
      Interval.isEmpty_iff_not_covers bounded, Interval.isEmpty_exact_iff bounded⟩
  · intro template delimiter part text place here ruled
    rw [emptyInterval_mem_ofTemplate_iff here ruled]
    exact Interval.isEmpty_exact_iff (Part.bounded_of_ofText ruled)

/-- A part is warned about as empty, and selected for the bound that it includes. -/
theorem reversed_interval_selected :
    let rule : Interval := ⟨.ofInt 9, .ofInt 1, false, true⟩
    Part.ofText "]9,1]never" = .interval rule "never" ∧
    rule.isEmpty = true ∧ (∃ x, rule.Covers x) ∧ rule.contains (.ofInt 1) = true ∧
    Warning.emptyInterval 1 4 rule ∈ ofTemplate "one|]9,1]never" "|" ∧
    (VariantSet.ofTemplate "one|]9,1]never" "|").select (.integer 1) "en" .standard = "never" := by
  intro rule
  exact ⟨by decide +kernel, by decide +kernel, Interval.exists_covers_of_included (.inr rfl),
    by decide +kernel, by decide +kernel, by decide +kernel⟩

end Lint

end PluralTemplate
