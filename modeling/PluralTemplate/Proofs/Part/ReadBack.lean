import PluralTemplate.Inspection
import PluralTemplate.Proofs.Interval.Emptiness
import PluralTemplate.Proofs.Part.Listing

/-!
# Shown rules read back

The row of a part shows its rule in a normal form, with the values of a list as canonical texts and
the bounds of an interval as numbers. In front of the text of the part, a shown rule is read as the
rule that it shows, except where a literal is so large that it stands for infinity: no list has a
word for it, and an interval has one for negative infinity as the lower bound and for positive
infinity as the upper bound only. What the row shows is then no rule, and is read as a plain part
(`shown_part_reads_back_iff`).
-/

set_option autoImplicit false

namespace PluralTemplate

open Grammar (Blanks Literal LowerBound UpperBound ListRule IntervalRule Decomposition)

namespace Part

/-- The rule as it is shown, and the text behind it. -/
def shown (part : Part) : String := part.ruleText ++ part.template

/-- There are words for all numbers of the rule where they stand. -/
def Spellable : Part → Prop
  | explicit values _ => "inf" ∉ values ∧ "-inf" ∉ values
  | interval rule _ => rule.lower ≠ .signed false .infinity ∧ rule.upper ≠ .signed true .infinity
  | plain _ => True

instance : DecidablePred Spellable
  | explicit _ _ => inferInstanceAs (Decidable (_ ∧ _))
  | interval _ _ => inferInstanceAs (Decidable (_ ∧ _))
  | plain _ => inferInstanceAs (Decidable True)

end Part

theorem PartRow.map_shown_rowsFrom (categories : Option (List Plural.Category))
    (index plains : Nat) (parts : List Part) :
    (rowsFrom categories index plains parts).map (fun row => row.rule ++ row.template) =
      parts.map Part.shown := by
  induction parts generalizing index plains with
  | nil => rfl
  | cons part rest ih =>
    rw [rowsFrom, List.map_cons, List.map_cons, ih]
    rfl

/-! ## Lists -/

/-- The canonical text of a quantity is a spelling of it, unless the quantity is infinite. -/
theorem Quantity.spells_canonical_cases (q : Quantity) :
    Spells q.canonical q ∨ q.canonical = "inf" ∨ q.canonical = "-inf" := by
  cases q with
  | integer n => exact .inl (spells_integer n)
  | measure x isNumber notSmall =>
    rcases Binary64.written_cases isNumber with ⟨negative, n, places, text, -⟩ | rfl | rfl
    · obtain ⟨r, parsed, canonical⟩ := parse?_text isNumber (ofBinary64?_of_none isNumber notSmall)
      refine .inl ⟨⟨_, congrArg String.ofList text⟩, ?_⟩
      change canonicalLiteral x.text = _
      rw [canonicalLiteral, parsed]
      exact canonical
    · right
      left
      change (Binary64.signed false .infinity).text = "inf"
      decide +kernel
    · right
      right
      change (Binary64.signed true .infinity).text = "-inf"
      decide +kernel

namespace Grammar

/-- The canonical text of a literal is a literal of that canonical text, or it is infinity. -/
theorem Literal.canonical_cases (l : Literal) :
    (∃ m : Literal, String.ofList m.chars = l.canonical ∧ m.canonical = l.canonical) ∨
      l.canonical = "inf" ∨ l.canonical = "-inf" := by
  obtain ⟨q, -, canonical⟩ := l.exists_quantity
  rw [← canonical]
  rcases q.spells_canonical_cases with ⟨⟨m, spelled⟩, same⟩ | infinite
  · refine .inl ⟨m, spelled, ?_⟩
    rw [Literal.canonical, spelled]
    exact same
  · exact .inr infinite

/-- No canonical text closes a list. -/
theorem Literal.brace_not_mem_canonical (l : Literal) : '}' ∉ l.canonical.toList := by
  rcases l.canonical_cases with ⟨m, spelled, -⟩ | infinite | infinite
  · rw [← spelled, String.toList_ofList]
    intro brace
    have inert := m.isInert_of_mem_chars _ brace
    cases inert
  · rw [infinite]
    decide
  · rw [infinite]
    decide

/-- Finite canonical texts are literals, each with itself for its canonical text. -/
theorem exists_literals_of_canonical {literals : List Literal}
    (finite : ∀ l ∈ literals, l.canonical ≠ "inf" ∧ l.canonical ≠ "-inf") :
    ∃ shown : List Literal,
      shown.map (fun m => String.ofList m.chars) = literals.map Literal.canonical ∧
        shown.map Literal.canonical = literals.map Literal.canonical := by
  induction literals with
  | nil => exact ⟨[], List.map_nil.trans List.map_nil.symm, List.map_nil⟩
  | cons l rest ih =>
    obtain ⟨shown, texts, values⟩ := ih fun m member => finite m (List.mem_cons_of_mem l member)
    obtain ⟨notInf, notMinusInf⟩ := finite l List.mem_cons_self
    rcases l.canonical_cases with ⟨m, spelled, canonical⟩ | infinite | infinite
    · refine ⟨m :: shown, ?_, ?_⟩
      · rw [List.map_cons, List.map_cons, spelled, texts]
      · rw [List.map_cons, List.map_cons, canonical, values]
    · exact absurd infinite notInf
    · exact absurd infinite notMinusInf

/-- What stands between the braces of a list. -/
def ListRule.inner (r : ListRule) : List Char :=
  r.before.chars ++ r.first.chars ++ r.more.flatMap Following.chars ++ r.after.chars

theorem ListRule.chars_eq_inner (r : ListRule) (rest : List Char) :
    r.chars ++ rest = '{' :: (r.inner ++ '}' :: rest) := by
  simp [chars, inner]

/-- The characters of blanks, literals and commas. -/
def isListed (c : Char) : Bool :=
  Text.isBlank c || c.isDigit || c == ',' || c == '-' || c == '.'

theorem Literal.isListed_of_mem_chars (l : Literal) {c : Char} (member : c ∈ l.chars) :
    isListed c = true := by
  rcases l.of_mem_chars member with rfl | rfl | digit
  · rfl
  · rfl
  · simp [isListed, digit]

theorem Blanks.isListed_of_mem_chars (blanks : Blanks) {c : Char} (member : c ∈ blanks.chars) :
    isListed c = true := by
  simp [isListed, blanks.blank c member]

theorem ListRule.isListed_of_mem_inner (r : ListRule) {c : Char} (member : c ∈ r.inner) :
    isListed c = true := by
  simp only [inner, Following.chars, List.mem_append, List.mem_flatMap, List.mem_singleton]
    at member
  rcases member with ((before | first) | ⟨f, -, ((before | rfl) | after) | literal⟩) | after
  · exact r.before.isListed_of_mem_chars before
  · exact r.first.isListed_of_mem_chars first
  · exact f.before.isListed_of_mem_chars before
  · rfl
  · exact f.after.isListed_of_mem_chars after
  · exact f.literal.isListed_of_mem_chars literal
  · exact r.after.isListed_of_mem_chars after

end Grammar

namespace Part

open Grammar (isListed)

theorem toList_shown_explicit (values : List String) (template : String) :
    (explicit values template).shown.toList =
      '{' :: ((String.intercalate "," values).toList ++ '}' :: template.toList) := by
  simp [shown, ruleText, Part.template]

/-- No list has other characters between its braces than lists are written with. -/
theorem ofText_shown_explicit_of_unlisted {values : List String} {template : String} {c : Char}
    (unclosed : '}' ∉ (String.intercalate "," values).toList)
    (member : c ∈ (String.intercalate "," values).toList) (unlisted : isListed c = false) :
    ofText (explicit values template).shown = .plain (explicit values template).shown := by
  apply Grammar.ofText_of_not_exists
  rintro ⟨⟨rule, gap, tail⟩, same⟩
  rw [Decomposition.chars, List.append_assoc, toList_shown_explicit] at same
  cases rule with
  | list r =>
    have rest := (List.cons.inj ((r.chars_eq_inner _).symm.trans same)).2
    have noBrace : '}' ∉ r.inner := by
      intro brace
      cases r.isListed_of_mem_inner brace
    -- The first closing brace ends the list, in the text as in the rule that would be read.
    obtain ⟨inner, -⟩ := run_unique (p := (· != '}'))
      (fun d inside => bne_iff_ne.2 fun brace => noBrace (brace ▸ inside))
      (startsOutside_cons rfl _)
      (fun d inside => bne_iff_ne.2 fun brace => unclosed (brace ▸ inside))
      (startsOutside_cons rfl _) rest
    have listed := r.isListed_of_mem_inner (inner ▸ member)
    rw [unlisted] at listed
    cases listed
  | interval r =>
    have bracket := r.isBracket_opening
    rw [Grammar.Rule.chars, r.chars_append] at same
    rw [(List.cons.inj same).1] at bracket
    cases bracket

theorem mem_toList_intercalate_comma_iff {c : Char} (noComma : c ≠ ',') {values : List String} :
    c ∈ (String.intercalate "," values).toList ↔ ∃ value ∈ values, c ∈ value.toList := by
  cases values with
  | nil => simp
  | cons first more =>
    rw [toList_intercalate_comma]
    simp [noComma]

section Listed

variable {text template : String} {values : List String}
  (parsed : ofText text = .explicit values template)

include parsed

theorem ofText_shown_explicit_of_spellable (spellable : Spellable (explicit values template)) :
    ofText (explicit values template).shown = .explicit values template := by
  obtain ⟨r, ⟨gap, tail, -, behind⟩, listed⟩ := Grammar.ofText_eq_explicit_iff_heads.1 parsed
  subst behind
  have finite : ∀ l ∈ r.literals, l.canonical ≠ "inf" ∧ l.canonical ≠ "-inf" := by
    intro l among
    have present : l.canonical ∈ values := listed ▸ List.mem_map_of_mem among
    exact ⟨fun infinite => spellable.1 (infinite ▸ present),
      fun infinite => spellable.2 (infinite ▸ present)⟩
  obtain ⟨shown, texts, canonical⟩ := Grammar.exists_literals_of_canonical finite
  rw [listed] at texts canonical
  cases shown with
  | nil =>
    rw [List.map_nil] at texts
    subst texts
    cases listed
  | cons first more =>
    have start : StartsOutside Text.isBlank (String.ofList tail.chars).toList := by
      rw [String.toList_ofList]
      exact tail.start
    have read := ofText_of_literals first more start
    rw [texts] at read
    refine read.trans ?_
    rw [← canonical]
    rfl

theorem ofText_shown_explicit_of_not_spellable
    (unspellable : ¬ Spellable (explicit values template)) :
    ofText (explicit values template).shown = .plain (explicit values template).shown := by
  obtain ⟨r, -, listed⟩ := Grammar.ofText_eq_explicit_iff_heads.1 parsed
  have unclosed : '}' ∉ (String.intercalate "," values).toList := by
    intro brace
    obtain ⟨value, among, inside⟩ := (mem_toList_intercalate_comma_iff (by decide)).1 brace
    obtain ⟨l, -, rfl⟩ := List.mem_map.1 (listed ▸ among)
    exact l.brace_not_mem_canonical inside
  have letter : ∃ value ∈ values, 'i' ∈ value.toList := by
    by_cases positive : "inf" ∈ values
    · exact ⟨_, positive, by decide⟩
    · by_cases negative : "-inf" ∈ values
      · exact ⟨_, negative, by decide⟩
      · exact absurd ⟨positive, negative⟩ unspellable
  apply ofText_shown_explicit_of_unlisted unclosed _ (c := 'i') rfl
  exact (mem_toList_intercalate_comma_iff (by decide)).2 letter

end Listed

end Part

/-! ## Intervals -/

namespace Grammar

theorem not_isMark_of_isInert {c : Char} (inert : isInert c = true) : isMark c = false := by
  rw [Bool.eq_false_iff]
  intro mark
  rw [isInert_of_isMark mark] at inert
  cases inert

theorem not_isMark_of_isBlank {c : Char} (blank : Text.isBlank c = true) : isMark c = false := by
  rw [Bool.eq_false_iff]
  intro mark
  rw [isBlank_of_isMark mark] at blank
  cases blank

/-- The text in front of the first mark is determined, as is what follows it. -/
theorem run_before_mark_unique {run otherRun rest otherRest : List Char} {c d : Char}
    (unmarked : ∀ e ∈ run, isMark e = false) (otherUnmarked : ∀ e ∈ otherRun, isMark e = false)
    (mark : isMark c = true) (otherMark : isMark d = true)
    (same : run ++ c :: rest = otherRun ++ d :: otherRest) : run = otherRun ∧ rest = otherRest := by
  obtain ⟨runs, rests⟩ := run_unique (p := fun e => !isMark e) (by simpa using unmarked)
    (startsOutside_cons (by simp [mark]) _) (by simpa using otherUnmarked)
    (startsOutside_cons (by simp [otherMark]) _) same
  exact ⟨runs, (List.cons.inj rests).2⟩

end Grammar

namespace Interval

/-- A number is written as a literal that stands for it. -/
theorem exists_literal_of_finite {x : Binary64} (isNumber : x ≠ .nan)
    (notInf : x ≠ .signed false .infinity) (notMinusInf : x ≠ .signed true .infinity) :
    ∃ l : Literal, l.chars = boundChars x ∧ l.value = x := by
  rcases Binary64.written_cases isNumber with ⟨negative, n, places, text, number⟩ | rfl | rfl
  · refine ⟨.ofScaled negative n places, ?_, ?_⟩
    · rw [boundChars, if_neg notInf, if_neg notMinusInf, text]
    · rw [Literal.value_ofScaled, number]
  · exact absurd rfl notInf
  · exact absurd rfl notMinusInf

theorem exists_lowerBound {x : Binary64} (isNumber : x ≠ .nan)
    (notInf : x ≠ .signed false .infinity) :
    ∃ b : LowerBound, b.chars = boundChars x ∧ b.value = x := by
  by_cases minusInf : x = .signed true .infinity
  · subst minusInf
    exact ⟨.minusInfinity, rfl, rfl⟩
  · obtain ⟨l, text, number⟩ := exists_literal_of_finite isNumber notInf minusInf
    exact ⟨.literal l, text, number⟩

theorem exists_upperBound {x : Binary64} (isNumber : x ≠ .nan)
    (notMinusInf : x ≠ .signed true .infinity) :
    ∃ b : UpperBound, b.chars = boundChars x ∧ b.value = x := by
  by_cases inf : x = .signed false .infinity
  · subst inf
    exact ⟨.infinity false, rfl, rfl⟩
  · obtain ⟨l, text, number⟩ := exists_literal_of_finite isNumber inf notMinusInf
    exact ⟨.literal l, text, number⟩

/-- No separator or closing bracket stands in a bound. -/
theorem not_isMark_of_mem_boundChars {x : Binary64} (isNumber : x ≠ .nan) :
    ∀ c ∈ boundChars x, Grammar.isMark c = false := by
  by_cases inf : x = .signed false .infinity
  · subst inf
    exact Text.outside_of_any (by decide)
  · by_cases minusInf : x = .signed true .infinity
    · subst minusInf
      exact Text.outside_of_any (by decide)
    · obtain ⟨l, text, -⟩ := exists_literal_of_finite isNumber inf minusInf
      rw [← text]
      intro c member
      exact Grammar.not_isMark_of_isInert (l.isInert_of_mem_chars c member)

end Interval

namespace Grammar

/-- Blanks and inert characters are no marks. -/
theorem Padded.not_isMark_of_mem_chars {α : Type} [Spelled α] (p : Padded α) :
    ∀ c ∈ p.chars, isMark c = false := by
  intro c member
  simp only [chars, List.mem_append] at member
  rcases member with (before | item) | after
  · exact not_isMark_of_isBlank (p.before.blank c before)
  · exact not_isMark_of_isInert (Spelled.inert _ c item)
  · exact not_isMark_of_isBlank (p.after.blank c after)

theorem Padded.mem_chars_of_mem_item {α : Type} [Spelled α] (p : Padded α) {c : Char}
    (member : c ∈ Spelled.chars p.item) : c ∈ p.chars :=
  List.mem_append_left _ (List.mem_append_right _ member)

/-- A literal has a digit, and so is not made of the characters of a word without one. -/
theorem Literal.exists_mem_chars_not_mem {word : List Char}
    (letters : word.any Char.isDigit = false) (l : Literal) : ∃ c ∈ l.chars, c ∉ word := by
  obtain ⟨c, rest, digit, cons⟩ := l.exists_body_eq_cons
  refine ⟨c, by simp [chars, cons], fun inside => ?_⟩
  rw [Text.outside_of_any letters c inside] at digit
  cases digit

/-- A lower bound is not written as positive infinity is shown. -/
theorem Padded.lower_ne_inf (p : Padded LowerBound) : p.chars ≠ "Inf".toList := by
  intro same
  have inside : ∀ c ∈ p.item.chars, c ∈ "Inf".toList := by
    intro c member
    rw [← same]
    exact p.mem_chars_of_mem_item member
  cases item : p.item with
  | minusInfinity =>
    rw [item] at inside
    have minus := inside '-' List.mem_cons_self
    revert minus
    decide
  | literal l =>
    rw [item] at inside
    obtain ⟨c, member, outside⟩ :=
      l.exists_mem_chars_not_mem (show "Inf".toList.any Char.isDigit = false by decide)
    exact outside (inside c member)

/-- An upper bound is not written as negative infinity is. -/
theorem Padded.upper_ne_minusInf (p : Padded UpperBound) : p.chars ≠ "-Inf".toList := by
  intro same
  have inside : ∀ c ∈ p.item.chars, c ∈ "-Inf".toList := by
    intro c member
    rw [← same]
    exact p.mem_chars_of_mem_item member
  cases item : p.item with
  | infinity plus =>
    have minus : '-' ∈ p.chars := by
      rw [same]
      decide
    have visible : ∀ blanks : Blanks, '-' ∉ blanks.chars := by
      intro blanks blank
      cases blanks.blank '-' blank
    have letters : '-' ∉ (UpperBound.infinity plus).chars := by cases plus <;> decide
    simp only [chars, List.mem_append] at minus
    rcases minus with (before | word) | after
    · exact visible _ before
    · rw [item] at word
      exact letters word
    · exact visible _ after
  | literal l =>
    rw [item] at inside
    obtain ⟨c, member, outside⟩ :=
      l.exists_mem_chars_not_mem (show "-Inf".toList.any Char.isDigit = false by decide)
    exact outside (inside c member)

end Grammar

namespace Part

variable {text template : String} {rule : Interval}

theorem toList_shown_interval (rule : Interval) (template : String) :
    (interval rule template).shown.toList =
      (if rule.lowerInclusive then '[' else ']') :: (Interval.boundChars rule.lower ++
        ',' :: (Interval.boundChars rule.upper ++
          (if rule.upperInclusive then ']' else '[') :: template.toList)) := by
  simp [shown, ruleText, Interval.text, Interval.chars, Part.template]

/-- Each bound of a rule has a word of the grammar, so it has one where it stands. -/
theorem ofText_shown_interval_of_spellable (bounded : rule.Bounded)
    (spellable : Spellable (interval rule template))
    (start : StartsOutside Text.isBlank template.toList) :
    ofText (interval rule template).shown = .interval rule template := by
  obtain ⟨lower, lowerText, lowerValue⟩ :=
    Interval.exists_lowerBound bounded.lower_ne spellable.1
  obtain ⟨upper, upperText, upperValue⟩ :=
    Interval.exists_upperBound bounded.upper_ne spellable.2
  refine Grammar.ofText_eq_interval_iff.2
    ⟨⟨rule.lowerInclusive, ⟨.none, lower, .none⟩, ⟨.none, upper, .none⟩, rule.upperInclusive⟩,
      .none, ⟨template.toList, start⟩, ?_, ?_, String.ofList_toList⟩
  · rw [toList_shown_interval, List.append_assoc, IntervalRule.chars_append, ← lowerText,
      ← upperText]
    simp [Grammar.Padded.chars, Blanks.none, Grammar.Spelled.chars, IntervalRule.opening,
      IntervalRule.closing]
  · rw [IntervalRule.interval, lowerValue, upperValue]

theorem ofText_shown_interval_of_not_spellable (bounded : rule.Bounded)
    (unspellable : ¬ Spellable (interval rule template)) :
    ofText (interval rule template).shown = .plain (interval rule template).shown := by
  apply Grammar.ofText_of_not_exists
  rintro ⟨⟨written, gap, tail⟩, same⟩
  rw [Decomposition.chars, List.append_assoc, toList_shown_interval] at same
  cases written with
  | list r =>
    rw [Grammar.Rule.chars, r.chars_eq_inner] at same
    have bracket := (List.cons.inj same).1
    split at bracket <;> cases bracket
  | interval r =>
    have behind := (List.cons.inj ((r.chars_append _).symm.trans same)).2
    have closing : Grammar.isMark (if rule.upperInclusive then ']' else '[') = true := by
      split <;> rfl
    -- The first mark behind a bound is the comma, the next one the closing bracket.
    obtain ⟨lowers, behind⟩ := Grammar.run_before_mark_unique r.lower.not_isMark_of_mem_chars
      (Interval.not_isMark_of_mem_boundChars bounded.lower_ne) rfl rfl behind
    obtain ⟨uppers, -⟩ := Grammar.run_before_mark_unique r.upper.not_isMark_of_mem_chars
      (Interval.not_isMark_of_mem_boundChars bounded.upper_ne) r.isMark_closing closing behind
    apply unspellable
    refine ⟨fun inf => ?_, fun minusInf => ?_⟩
    · rw [inf] at lowers
      exact r.lower.lower_ne_inf lowers
    · rw [minusInf] at uppers
      exact r.upper.upper_ne_minusInf uppers

/-- What is shown for a part is read as that part if its rule can be spelled, and as plain text
otherwise. -/
theorem ofText_shown (text : String) :
    ofText (ofText text).shown =
      if (ofText text).Spellable then ofText text else .plain (ofText text).shown := by
  cases parsed : ofText text with
  | explicit values template =>
    split
    · exact ofText_shown_explicit_of_spellable parsed ‹_›
    · exact ofText_shown_explicit_of_not_spellable parsed ‹_›
  | interval rule template =>
    obtain ⟨r, gap, tail, -, -, behind⟩ := Grammar.ofText_eq_interval_iff.1 parsed
    have start : StartsOutside Text.isBlank template.toList := by
      rw [← behind, String.toList_ofList]
      exact tail.start
    have bounded := bounded_of_ofText parsed
    split
    · exact ofText_shown_interval_of_spellable bounded ‹_› start
    · exact ofText_shown_interval_of_not_spellable bounded ‹_›
  | plain template =>
    obtain rfl := (Grammar.ofText_eq_plain_iff.1 parsed).1
    rw [if_pos (show Spellable (plain template) from trivial), shown, ruleText, Part.template,
      String.empty_append, parsed]

/-- The row of a part shows a rule and a text that are read as that part if and only if each number
in the rule has a word where it stands. Otherwise what the row shows is read as a plain part. -/
theorem shown_part_reads_back_iff (categories : Option (List Plural.Category)) (texts : List String)
    (place : Nat) (text : String) (here : texts[place]? = some text) :
    ∃ row, (PartRow.rows categories (texts.map ofText))[place]? = some row ∧
      (ofText (row.rule ++ row.template) = ofText text ↔ (ofText text).Spellable) ∧
      (¬ (ofText text).Spellable →
        ofText (row.rule ++ row.template) = .plain (row.rule ++ row.template)) := by
  have rows := congrArg (·[place]?) (PartRow.map_shown_rowsFrom categories 0 0 (texts.map ofText))
  simp only [List.getElem?_map, here, Option.map_some] at rows
  obtain ⟨row, found, shown⟩ := Option.map_eq_some_iff.1 rows
  refine ⟨row, found, ?_, ?_⟩
  · rw [shown, ofText_shown]
    split
    · rename_i spellable
      exact iff_of_true rfl spellable
    · rename_i unspellable
      refine iff_of_false (fun plain => ?_) unspellable
      rw [← plain] at unspellable
      exact unspellable trivial
  · intro unspellable
    rw [shown, ofText_shown, if_neg unspellable]

/-- A list with a zero too many reads back, and an interval that begins at infinity does not. -/
theorem shown_part_reads_back_huge :
    let few := "\x7b 1.50 , 2\x7d few"
    let huge := String.ofList ("[".toList ++ List.replicate 400 '9' ++ ",9] many".toList)
    (∃ row, (PartRow.rows none ([few, huge].map ofText))[0]? = some row ∧
      ofText (row.rule ++ row.template) = ofText few) ∧
    ∃ row, (PartRow.rows none ([few, huge].map ofText))[1]? = some row ∧
      ofText (row.rule ++ row.template) = .plain (row.rule ++ row.template) := by
  intro few huge
  constructor
  · obtain ⟨row, found, readsBack, -⟩ := shown_part_reads_back_iff none [few, huge] 0 few rfl
    exact ⟨row, found, readsBack.2 (by decide +kernel)⟩
  · obtain ⟨row, found, -, plain⟩ := shown_part_reads_back_iff none [few, huge] 1 huge rfl
    let digits : Grammar.Digits :=
      ⟨List.replicate 400 '9', List.cons_ne_nil '9' (List.replicate 399 '9'),
        List.all_eq_true.1 (by decide +kernel)⟩
    let nines : Literal := ⟨false, digits, none⟩
    let nine : Literal := .ofScaled false 9 0
    let gap : Blanks := ⟨[' '], List.all_eq_true.1 (by decide)⟩
    have read : ofText huge = .interval ⟨nines.value, nine.value, true, true⟩ "many" := by
      refine Grammar.ofText_eq_interval_iff.2
        ⟨⟨true, ⟨.none, .literal nines, .none⟩, ⟨.none, .literal nine, .none⟩, true⟩,
          gap, ⟨"many".toList, startsOutside_cons rfl _⟩, ?_, rfl, rfl⟩
      exact Eq.trans (by decide +kernel) String.toList_ofList.symm
    have infinite : nines.value = .signed false .infinity := by decide +kernel
    have unspellable : ¬ (ofText huge).Spellable := by
      rw [read]
      exact fun spellable => spellable.1 infinite
    exact ⟨row, found, plain unspellable⟩

end Part

end PluralTemplate
