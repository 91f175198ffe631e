import PluralTemplate.Proofs.Binary64.Overflow
import PluralTemplate.Proofs.Interval.Partition
import PluralTemplate.Proofs.Part.Listing

/-!
# What infinite quantities match

Infinity has words as a bound and none in a list. A literal has as many digits as one likes though,
and is rounded to infinity from a certain size on (`Literal.Overflows`). In a list it then has the
canonical text of the infinite quantity, and as an included bound it is one that the infinite
quantity equals. These are all ways in which an infinite quantity is listed or reached other than by
a word (`infinite_quantity_matches_iff`), and they take a part of more than 308 characters.
-/

set_option autoImplicit false

namespace PluralTemplate

variable {negative : Bool}

/-! ## Infinite numbers -/

namespace Binary64

variable {x : Binary64}

theorem isFinite_infinity : (signed negative .infinity).isFinite = false := by
  rw [isFinite, Magnitude.isFinite, Magnitude.rank_infinity, decide_eq_false (Nat.lt_irrefl _)]

theorem position_infinity : (signed negative .infinity).position =
    some (if negative then -(infinityRank : Int) else infinityRank) := by
  rw [position, Magnitude.rank_infinity]

/-- No other number is in the place of an infinity. -/
theorem same_infinity_iff :
    (signed negative .infinity).same x = true ↔ x = .signed negative .infinity := by
  constructor
  · intro same
    cases x with
    | nan => simp [Binary64.same, position] at same
    | signed sign m =>
      have pos := Magnitude.infinityRank_pos
      have bound := m.rank_le
      rw [same_of_position position_infinity rfl, decide_eq_true_eq] at same
      have outermost : m.rank = infinityRank ∧ sign = negative := by
        cases negative <;> cases sign <;> simp at same ⊢ <;> omega
      have infinite : m = .infinity :=
        Magnitude.eq_of_rank_eq (outermost.1.trans Magnitude.rank_infinity.symm)
      rw [outermost.2, infinite]
  · rintro rfl
    rw [same_of_position position_infinity position_infinity, decide_eq_true rfl]

/-- An infinity does not lie between two numbers. -/
theorem not_between_infinity (lower upper : Binary64) :
    (lower.below (signed negative .infinity) && (signed negative .infinity).below upper) =
      false := by
  rw [Bool.eq_false_iff, ne_eq, Bool.and_eq_true]
  rintro ⟨above, below⟩
  obtain ⟨p, _, lowerPlace, place, less⟩ := exists_positions_of_below above
  obtain ⟨_, q, again, upperPlace, more⟩ := exists_positions_of_below below
  have leftmost := (position_bounds lowerPlace).1
  have rightmost := (position_bounds upperPlace).2
  obtain rfl := Option.some.inj (position_infinity.symm.trans place)
  obtain rfl := Option.some.inj (position_infinity.symm.trans again)
  cases negative <;> simp at less more <;> omega

end Binary64

theorem Interval.contains_infinity_iff {i : Interval} :
    i.contains (.signed negative .infinity) = true ↔
      i.lowerInclusive = true ∧ i.lower = .signed negative .infinity ∨
        i.upperInclusive = true ∧ i.upper = .signed negative .infinity := by
  rw [contains, Binary64.not_between_infinity, Bool.or_false, Bool.or_eq_true, Bool.and_eq_true,
    Bool.and_eq_true, Binary64.same_infinity_iff, Binary64.same_infinity_iff]

namespace Quantity

variable {q : Quantity}

theorem integer?_of_infinite (infinite : q.value = .signed negative .infinity) :
    q.integer? = none := by
  cases q with
  | integer n =>
    have finite := isFinite_value_integer n
    rw [infinite, Binary64.isFinite_infinity] at finite
    cases finite
  | measure x isNumber notSmall => rfl

theorem value_of_ofBinary64? {x : Binary64} (isNumber : x ≠ .nan) (held : ofBinary64? x = some q)
    (noInteger : q.integer? = none) : q.value = x := by
  cases small : x.smallInteger? with
  | some n =>
    rw [ofBinary64?_of_some small] at held
    obtain rfl := Option.some.inj held
    cases noInteger
  | none =>
    rw [ofBinary64?_of_none isNumber small] at held
    obtain rfl := Option.some.inj held
    rfl

theorem ofBinary64?_value (noInteger : q.integer? = none) : ofBinary64? q.value = some q := by
  cases q with
  | integer n => cases noInteger
  | measure x isNumber notSmall => exact ofBinary64?_of_none isNumber notSmall

end Quantity

namespace Grammar

/-! ## Literals that overflow -/

namespace Literal

variable {l : Literal}

/-- The literal is so large that the number nearest to it is infinite. -/
def Overflows (l : Literal) : Prop :=
  Magnitude.overflowBound * 10 ^ l.places.length ≤ Numeral.value (l.whole.chars ++ l.places)

theorem value_eq_infinity_iff :
    l.value = .signed negative .infinity ↔ l.negative = negative ∧ l.Overflows := by
  rw [value_eq_nearest, Binary64.signed.injEq,
    Magnitude.nearest_eq_infinity_iff (Nat.pow_pos (by decide))]
  exact Iff.rfl

/-- Such a literal has more than 308 digits in front of the point. -/
theorem Overflows.length (overflows : l.Overflows) : 308 < l.whole.chars.length := by
  have digits : ∀ c ∈ l.whole.chars ++ l.places, c.isDigit = true := by
    intro c member
    rcases List.mem_append.1 member with whole | place
    · exact l.whole.digit c whole
    · exact l.isDigit_of_mem_places place
  have short := Numeral.value_lt_pow_length digits
  rw [List.length_append, pow_add] at short
  exact Magnitude.lt_of_overflowBound_lt_pow
    (Nat.lt_of_mul_lt_mul_right (Nat.lt_of_le_of_lt overflows short))

/-- It fits no word. -/
theorem Overflows.integer? (overflows : l.Overflows) : Numeral.integer? l.chars = none := by
  rw [integer?_chars, if_neg]
  rintro ⟨whole, fits⟩
  have places : l.places = [] := by simp [places, whole]
  have large := overflows
  rw [Overflows, places, List.append_nil, List.length_nil, pow_zero, Nat.mul_one,
    ← natAbs_integer] at large
  have bound : 2 ^ 63 < Magnitude.overflowBound := by decide +kernel
  have word := Numeral.fitsWord_iff.1 fits
  omega

/-- The literals with the canonical text of an infinite quantity are those that overflow. -/
theorem canonical_eq_iff_of_infinite {q : Quantity}
    (infinite : q.value = .signed negative .infinity) :
    l.canonical = q.canonical ↔ l.negative = negative ∧ l.Overflows := by
  rw [← value_eq_infinity_iff, ← infinite]
  constructor
  · intro same
    obtain ⟨p, parsed, canonical⟩ := l.exists_quantity
    have texts : p.canonicalChars = q.canonicalChars :=
      String.ofList_injective (canonical.trans same)
    have values : p.value = q.value := by
      have spelled := p.binary64?_canonicalChars
      rw [texts, q.binary64?_canonicalChars] at spelled
      exact (Option.some.inj spelled).symm
    have noInteger := Quantity.integer?_of_infinite (values.trans infinite)
    rw [parse?_chars] at parsed
    cases read : Numeral.integer? l.chars with
    | some n =>
      rw [read] at parsed
      obtain rfl := Option.some.inj parsed
      cases noInteger
    | none =>
      rw [read] at parsed
      rw [← values, Quantity.value_of_ofBinary64? Binary64.noConfusion parsed noInteger]
  · intro values
    have overflows := (value_eq_infinity_iff.1 (values.trans infinite)).2
    have held := Quantity.ofBinary64?_value (Quantity.integer?_of_infinite infinite)
    rw [canonical, Quantity.canonicalLiteral, parse?_chars, overflows.integer?, values, held]

end Literal

/-! ## Rules that infinite quantities match -/

/-- The bound is the word for the infinity, or a literal that overflows to it. -/
def LowerBound.IsInfinity (negative : Bool) : LowerBound → Prop
  | minusInfinity => negative = true
  | literal l => l.negative = negative ∧ l.Overflows

/-- The bound is a word for the infinity, or a literal that overflows to it. -/
def UpperBound.IsInfinity (negative : Bool) : UpperBound → Prop
  | infinity _ => negative = false
  | literal l => l.negative = negative ∧ l.Overflows

theorem LowerBound.value_eq_infinity_iff {b : LowerBound} :
    b.value = .signed negative .infinity ↔ b.IsInfinity negative := by
  cases b with
  | minusInfinity => simp [value, IsInfinity, eq_comm]
  | literal l => exact Literal.value_eq_infinity_iff

theorem UpperBound.value_eq_infinity_iff {b : UpperBound} :
    b.value = .signed negative .infinity ↔ b.IsInfinity negative := by
  cases b with
  | infinity plus => simp [value, IsInfinity, eq_comm]
  | literal l => exact Literal.value_eq_infinity_iff

/-- The text consists of the rule, blanks and the template. -/
def IntervalRule.Heads (r : IntervalRule) (text template : String) : Prop :=
  ∃ (gap : Blanks) (tail : Tail),
    r.chars ++ gap.chars ++ tail.chars = text.toList ∧ String.ofList tail.chars = template

theorem IntervalRule.Heads.ofText_eq {r : IntervalRule} {text template : String}
    (heads : r.Heads text template) : Part.ofText text = .interval r.interval template := by
  obtain ⟨gap, tail, spelled, behind⟩ := heads
  exact ofText_eq_interval_iff.2 ⟨r, gap, tail, spelled, rfl, behind⟩

/-- The text begins with a list, and a literal in it overflows to the infinity. -/
def ListsInfinity (negative : Bool) (text : String) : Prop :=
  ∃ (r : ListRule) (template : String), r.Heads text template ∧
    ∃ l ∈ r.literals, l.negative = negative ∧ l.Overflows

/-- The text begins with an interval, and a bound that it includes is the infinity. -/
def ReachesInfinity (negative : Bool) (text : String) : Prop :=
  ∃ (r : IntervalRule) (template : String), r.Heads text template ∧
    (r.lowerInclusive = true ∧ r.lower.item.IsInfinity negative ∨
      r.upperInclusive = true ∧ r.upper.item.IsInfinity negative)

/-- The text begins with an interval, and a bound that it includes is a word for the infinity. -/
def NamesInfinity (negative : Bool) (text : String) : Prop :=
  ∃ (r : IntervalRule) (template : String), r.Heads text template ∧
    (negative = true ∧ r.lowerInclusive = true ∧ r.lower.item = .minusInfinity ∨
      negative = false ∧ r.upperInclusive = true ∧ ∃ plus, r.upper.item = .infinity plus)

theorem lists_iff_of_infinite {q : Quantity} (infinite : q.value = .signed negative .infinity)
    {text : String} :
    (Part.ofText text).lists q.canonical = true ↔ ListsInfinity negative text := by
  simp only [Part.lists_iff, mem_values_iff, Lists, List.mem_map,
    Literal.canonical_eq_iff_of_infinite infinite]
  exact Iff.rfl

theorem covers_infinity_iff {text : String} :
    (Part.ofText text).covers (.signed negative .infinity) = true ↔
      ReachesInfinity negative text := by
  have reaches : ∀ r : IntervalRule, r.interval.contains (.signed negative .infinity) = true ↔
      (r.lowerInclusive = true ∧ r.lower.item.IsInfinity negative ∨
        r.upperInclusive = true ∧ r.upper.item.IsInfinity negative) := by
    intro r
    rw [Interval.contains_infinity_iff, ← LowerBound.value_eq_infinity_iff,
      ← UpperBound.value_eq_infinity_iff]
    exact Iff.rfl
  constructor
  · intro covered
    cases parsed : Part.ofText text with
    | interval rule template =>
      obtain ⟨r, gap, tail, spelled, rfl, behind⟩ := ofText_eq_interval_iff.1 parsed
      rw [parsed] at covered
      exact ⟨r, template, ⟨gap, tail, spelled, behind⟩, (reaches r).1 covered⟩
    | explicit values template => simp [parsed, Part.covers] at covered
    | plain template => simp [parsed, Part.covers] at covered
  · rintro ⟨r, template, heads, included⟩
    rw [heads.ofText_eq]
    exact (reaches r).2 included

/-! ## Texts with such literals -/

/-- A literal without a fraction. -/
theorem Literal.chars_of_whole (negative : Bool) (whole : Digits) :
    (Literal.mk negative whole none).chars = signChars negative ++ whole.chars := by
  simp [chars, body, fractionChars]

section Written

variable {l : Literal} (overflows : l.Overflows) {t : String}
  (start : StartsOutside Text.isBlank t.toList)

include overflows start

theorem Literal.Overflows.listsInfinity :
    ListsInfinity l.negative ("\x7b" ++ String.ofList l.chars ++ "\x7d" ++ t) := by
  refine ⟨.bare l [], t, ⟨.none, ⟨t.toList, start⟩, ?_, String.ofList_toList⟩, l,
    List.mem_singleton_self l, rfl, overflows⟩
  rw [ListRule.chars_bare]
  simp [Blanks.none]

theorem Literal.Overflows.reachesInfinity_of_upper (lower : Literal) :
    ReachesInfinity l.negative
      ("[" ++ String.ofList lower.chars ++ "," ++ String.ofList l.chars ++ "]" ++ t) := by
  refine ⟨⟨true, ⟨.none, .literal lower, .none⟩, ⟨.none, .literal l, .none⟩, true⟩, t,
    ⟨.none, ⟨t.toList, start⟩, ?_, String.ofList_toList⟩, .inr ⟨rfl, rfl, overflows⟩⟩
  simp [IntervalRule.chars, IntervalRule.opening, IntervalRule.closing, Padded.chars, Spelled.chars,
    LowerBound.chars, UpperBound.chars, Blanks.none]

theorem Literal.Overflows.reachesInfinity_of_lower (upper : Literal) :
    ReachesInfinity l.negative
      ("[" ++ String.ofList l.chars ++ "," ++ String.ofList upper.chars ++ "]" ++ t) := by
  refine ⟨⟨true, ⟨.none, .literal l, .none⟩, ⟨.none, .literal upper, .none⟩, true⟩, t,
    ⟨.none, ⟨t.toList, start⟩, ?_, String.ofList_toList⟩, .inl ⟨rfl, rfl, overflows⟩⟩
  simp [IntervalRule.chars, IntervalRule.opening, IntervalRule.closing, Padded.chars, Spelled.chars,
    LowerBound.chars, UpperBound.chars, Blanks.none]

end Written

/-! ## Texts without such literals -/

def LowerBound.literals : LowerBound → List Literal
  | minusInfinity => []
  | literal l => [l]

def UpperBound.literals : UpperBound → List Literal
  | infinity _ => []
  | literal l => [l]

/-- The literals that the rule is written with. -/
def Rule.literals : Rule → List Literal
  | list r => r.literals
  | interval r => r.lower.item.literals ++ r.upper.item.literals

/-- The text begins with a rule, and a literal in it overflows. -/
def Overflowing (text : String) : Prop :=
  ∃ d : Decomposition, d.chars = text.toList ∧ ∃ l ∈ d.rule.literals, l.Overflows

/-- The literals of a rule stand in it. -/
theorem Rule.literal_infix_chars {rule : Rule} {l : Literal} (among : l ∈ rule.literals) :
    l.chars <:+: rule.chars := by
  cases rule with
  | list r =>
    rcases List.mem_cons.1 among with rfl | later
    · exact ⟨['{'] ++ r.before.chars, r.more.flatMap Following.chars ++ r.after.chars ++ ['}'], by
        simp [chars, ListRule.chars]⟩
    · obtain ⟨f, member, rfl⟩ := List.mem_map.1 later
      have behind : f.literal.chars <:+: f.chars := (List.suffix_append _ _).isInfix
      have inside : r.more.flatMap Following.chars <:+: r.chars :=
        ⟨['{'] ++ r.before.chars ++ r.first.chars, r.after.chars ++ ['}'], by
          simp [ListRule.chars]⟩
      have among : f.chars <:+: r.more.flatMap Following.chars :=
        List.infix_of_mem_flatten (List.mem_map_of_mem member)
      exact behind.trans (among.trans inside)
  | interval r =>
    rcases List.mem_append.1 among with below | above
    · have lower : r.lower.item = .literal l := by
        cases item : r.lower.item <;> simp_all [LowerBound.literals]
      refine ⟨[r.opening] ++ r.lower.before.chars,
        r.lower.after.chars ++ [','] ++ r.upper.chars ++ [r.closing], ?_⟩
      simp [chars, IntervalRule.chars, Padded.chars, Spelled.chars, lower, LowerBound.chars]
    · have upper : r.upper.item = .literal l := by
        cases item : r.upper.item <;> simp_all [UpperBound.literals]
      refine ⟨[r.opening] ++ r.lower.chars ++ [','] ++ r.upper.before.chars,
        r.upper.after.chars ++ [r.closing], ?_⟩
      simp [chars, IntervalRule.chars, Padded.chars, Spelled.chars, upper, UpperBound.chars]

theorem Overflowing.length {text : String} (overflowing : Overflowing text) :
    308 < text.toList.length := by
  obtain ⟨d, spelled, l, among, overflows⟩ := overflowing
  have digits : l.whole.chars <:+: l.chars :=
    ⟨Literal.signChars l.negative, l.fractionChars, by simp [Literal.chars, Literal.body]⟩
  have ruled : d.rule.chars <:+: d.chars :=
    ⟨[], d.gap.chars ++ d.text.chars, by simp [Decomposition.chars]⟩
  rw [← spelled]
  exact overflows.length.trans_le
    (digits.trans ((Rule.literal_infix_chars among).trans ruled)).length_le

theorem ListsInfinity.overflowing {text : String} (lists : ListsInfinity negative text) :
    Overflowing text := by
  obtain ⟨r, -, ⟨gap, tail, spelled, -⟩, l, among, -, overflows⟩ := lists
  exact ⟨⟨.list r, gap, tail⟩, spelled, l, among, overflows⟩

/-- An infinity that is a bound is written as a word if no literal overflows. -/
theorem ReachesInfinity.named {text : String} (reaches : ReachesInfinity negative text)
    (small : ¬ Overflowing text) : NamesInfinity negative text := by
  obtain ⟨r, template, heads, included⟩ := reaches
  obtain ⟨gap, tail, spelled, -⟩ := id heads
  have fits : ∀ l ∈ (Rule.interval r).literals, ¬ l.Overflows := fun l among overflows =>
    small ⟨⟨.interval r, gap, tail⟩, spelled, l, among, overflows⟩
  refine ⟨r, template, heads, ?_⟩
  rcases included with ⟨lowerInclusive, infinite⟩ | ⟨upperInclusive, infinite⟩
  · cases lower : r.lower.item with
    | minusInfinity =>
      rw [lower] at infinite
      exact .inl ⟨infinite, lowerInclusive, rfl⟩
    | literal l =>
      rw [lower] at infinite
      exact absurd infinite.2 (fits l (by simp [Rule.literals, lower, LowerBound.literals]))
  · cases upper : r.upper.item with
    | infinity plus =>
      rw [upper] at infinite
      exact .inr ⟨infinite, upperInclusive, plus, rfl⟩
    | literal l =>
      rw [upper] at infinite
      exact absurd infinite.2 (fits l (by simp [Rule.literals, upper, UpperBound.literals]))

end Grammar

/-! ## Selection -/

namespace VariantSet

open Grammar (Digits Literal ListsInfinity ReachesInfinity NamesInfinity Overflowing)

/-- The choice is explicit if the canonical text is bound. -/
theorem exists_choose_eq_explicit_iff {set : VariantSet} {q : Quantity} {locale : String}
    {registry : Registry} :
    (∃ text, set.choose q locale registry = .explicit text) ↔
      (set.explicit.get? q.canonical).isSome = true := by
  unfold choose
  cases set.explicit.get? q.canonical with
  | some text => simp
  | none =>
    cases set.intervals.find? fun entry => entry.1.contains q.value with
    | some entry => simp
    | none => cases found : set.ordinals[registry.categoryIndex locale q]? <;> simp [found]

/-- A value is bound if some part lists it. -/
theorem isSome_get?_explicit_iff {template delimiter value : String} :
    ((ofTemplate template delimiter).explicit.get? value).isSome = true ↔
      ∃ text ∈ Text.split delimiter template, (Part.ofText text).lists value = true := by
  rw [ofTemplate, ofParts, explicit_foldl_add, empty, Dictionary.get?_empty, Option.or_none,
    Option.isSome_map, List.getLast?_isSome, ne_eq, List.filter_eq_nil_iff]
  simp [parts]

/-- An infinite quantity is selected explicitly if a literal in a list overflows to it, and is in an
interval if an included bound is a word for it or a literal that overflows to it. So where no
literal overflows, no list matches it, and an interval does by a word only. A part in which a
literal overflows has more than 308 characters. -/
theorem infinite_quantity_matches_iff {q : Quantity} {negative : Bool}
    (infinite : q.value = .signed negative .infinity) (template delimiter : String) :
    let texts := Text.split delimiter template
    let choose := (ofTemplate template delimiter).choose q
    (∀ locale registry, (∃ text, choose locale registry = .explicit text) ↔
      ∃ text ∈ texts, ListsInfinity negative text) ∧
    (∀ text, (Part.ofText text).covers q.value = true ↔ ReachesInfinity negative text) ∧
    ((∀ text ∈ texts, ¬ Overflowing text) →
      (∀ locale registry text, choose locale registry ≠ .explicit text) ∧
      ∀ text ∈ texts, (Part.ofText text).covers q.value = true → NamesInfinity negative text) ∧
    ∀ text, Overflowing text → 308 < text.toList.length := by
  intro texts choose
  have listed : ∀ locale registry, (∃ text, choose locale registry = .explicit text) ↔
      ∃ text ∈ texts, ListsInfinity negative text := by
    intro locale registry
    rw [exists_choose_eq_explicit_iff, isSome_get?_explicit_iff]
    simp only [Grammar.lists_iff_of_infinite infinite]
    exact Iff.rfl
  have reached : ∀ text, (Part.ofText text).covers q.value = true ↔
      ReachesInfinity negative text := by
    intro text
    rw [infinite]
    exact Grammar.covers_infinity_iff
  refine ⟨listed, reached, fun small => ⟨fun locale registry text chosen => ?_, ?_⟩,
    fun _ => Overflowing.length⟩
  · obtain ⟨text, member, lists⟩ := (listed locale registry).1 ⟨text, chosen⟩
    exact small text member lists.overflowing
  · intro text member covered
    exact ((reached text).1 covered).named (small text member)

/-- The infinite quantity is in an interval up to the word for it, and in no list. -/
theorem infinite_quantity_matches_word :
    let inf : Quantity := .measure (.signed false .infinity) (by decide) (by decide +kernel)
    let template := "\x7b1\x7done|[0,+Inf]many"
    (∀ text ∈ Text.split "|" template, ¬ Overflowing text) ∧
      (∀ locale registry text,
        (ofTemplate template "|").choose inf locale registry ≠ .explicit text) ∧
      NamesInfinity false "[0,+Inf]many" := by
  intro inf template
  obtain ⟨-, -, words, long⟩ := infinite_quantity_matches_iff (q := inf) rfl template "|"
  have short : ∀ text ∈ Text.split "|" template, text.toList.length ≤ 308 := by decide +kernel
  have small : ∀ text ∈ Text.split "|" template, ¬ Overflowing text :=
    fun text member overflowing => absurd (long text overflowing) (Nat.not_lt.2 (short text member))
  exact ⟨small, (words small).1, (words small).2 _ (by decide +kernel) (by decide +kernel)⟩

/-- A one with 309 zeros is listed by the infinite quantity of its sign, and is a bound of intervals
that contain it. -/
theorem infinite_quantity_matches_literals :
    let huge : List Char → String := fun sign =>
      String.ofList (sign ++ '1' :: List.replicate 309 '0')
    let inf : Quantity := .measure (.signed false .infinity) (by decide) (by decide +kernel)
    let minusInf : Quantity := .measure (.signed true .infinity) (by decide) (by decide +kernel)
    (∃ text, (ofTemplate ("\x7b" ++ huge [] ++ "\x7d" ++ "x") "").choose inf "en" .standard =
        .explicit text) ∧
      (∃ text, (ofTemplate ("\x7b" ++ huge ['-'] ++ "\x7d" ++ "x") "").choose minusInf "en"
        .standard = .explicit text) ∧
      (Part.ofText ("[" ++ "0" ++ "," ++ huge [] ++ "]" ++ "x")).covers inf.value = true ∧
      (Part.ofText ("[" ++ huge ['-'] ++ "," ++ "0" ++ "]" ++ "x")).covers minusInf.value =
        true := by
  intro huge inf minusInf
  let digits : Digits := ⟨'1' :: List.replicate 309 '0', List.cons_ne_nil _ _,
    List.all_eq_true.1 (by decide +kernel)⟩
  let zero : Literal := .ofScaled false 0 0
  have overflows : ∀ negative, (Literal.mk negative digits none).Overflows := by
    have bound : Magnitude.overflowBound * 10 ^ 0 ≤ Numeral.value (digits.chars ++ []) := by
      decide +kernel
    exact fun _ => bound
  have spelled : ∀ negative, String.ofList (Literal.mk negative digits none).chars =
      huge (Literal.signChars negative) :=
    fun negative => congrArg String.ofList (Literal.chars_of_whole negative digits)
  have start : StartsOutside Text.isBlank "x".toList := startsOutside_cons rfl _
  have listed : ∀ (negative : Bool) (q : Quantity), q.value = .signed negative .infinity →
      ∃ text, (ofTemplate ("\x7b" ++ huge (Literal.signChars negative) ++ "\x7d" ++ "x") "").choose
        q "en" .standard = .explicit text := by
    intro negative q infinite
    rw [exists_choose_eq_explicit_iff, isSome_get?_explicit_iff]
    refine ⟨_, List.mem_singleton_self _, ?_⟩
    rw [String.ofList_toList, Grammar.lists_iff_of_infinite infinite, ← spelled]
    exact (overflows negative).listsInfinity start
  refine ⟨listed false inf rfl, listed true minusInf rfl, ?_, ?_⟩
  · have reaches := (overflows false).reachesInfinity_of_upper start zero
    rw [spelled] at reaches
    exact Grammar.covers_infinity_iff.2 reaches
  · have reaches := (overflows true).reachesInfinity_of_lower start zero
    rw [spelled] at reaches
    exact Grammar.covers_infinity_iff.2 reaches

end VariantSet

end PluralTemplate
