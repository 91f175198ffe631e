import PluralTemplate.Proofs.Part.Literals

/-!
# Parts are read by the grammar

A rule ends at its closing character whatever follows, so the reader of rules reads exactly the
rules of the grammar (`reads_rule`). The part that a text spells is what its decomposition
says, and a text without a decomposition is plain (`ofText_iff_decomposition`).
-/

set_option autoImplicit false

namespace PluralTemplate.Grammar

open Reader
open Text (isBlank)

/-! ## What rules say -/

/-- The literals in order, in canonical form. -/
def ListRule.values (r : ListRule) : List String :=
  (r.first :: r.more.map Following.literal).map fun l =>
    Quantity.canonicalLiteral (String.ofList l.chars)

theorem ListRule.values_eq (r : ListRule) :
    r.values = (r.first.chars :: r.more.map fun f => f.literal.chars).map fun l =>
      Quantity.canonicalLiteral (String.ofList l) := by
  simp [ListRule.values]

def IntervalRule.interval (r : IntervalRule) : Interval :=
  ⟨r.lower.item.value, r.upper.item.value, r.lowerInclusive, r.upperInclusive⟩

/-- What a rule makes of the text behind it. -/
def Rule.part : Rule → String → Part
  | list r => Part.explicit r.values
  | interval r => Part.interval r.interval

def Decomposition.part (d : Decomposition) : Part := d.rule.part (String.ofList d.text.chars)

/-! ## Rules are read -/

theorem blanks_complete (blanks : Blanks) {c : Char} (mark : isMark c = true) (rest : List Char) :
    Part.blanks.run (blanks.chars ++ c :: rest) = some ((), c :: rest) :=
  reads_blanks.complete blanks (startsOutside_cons (isBlank_of_isMark mark) rest)

theorem comma_sound {text rest : List Char} {u : Unit}
    (read : Part.comma.run text = some (u, rest)) :
    ∃ before after : Blanks, before.chars ++ ',' :: (after.chars ++ rest) = text := by
  simp only [Part.comma, run_bind_iff, run_discard_iff, run_one_iff] at read
  obtain ⟨_, _, beforeRead, _, _, ⟨c, isComma, rfl⟩, afterRead⟩ := read
  obtain ⟨before, rfl, -⟩ := reads_blanks.sound beforeRead
  obtain ⟨after, rfl, -⟩ := reads_blanks.sound afterRead
  obtain rfl : c = ',' := beq_iff_eq.1 isComma
  exact ⟨before, after, rfl⟩

theorem comma_complete (before after : Blanks) {rest : List Char}
    (visible : StartsOutside isBlank rest) :
    Part.comma.run (before.chars ++ ',' :: (after.chars ++ rest)) = some ((), rest) := by
  refine (run_bind_of (blanks_complete before rfl _) _).trans ?_
  refine (run_bind_of (run_discard_of (run_one_cons rfl _)) _).trans ?_
  exact reads_blanks.complete after visible

theorem comma_none (blanks : Blanks) {c : Char} (mark : isMark c = true) (noComma : c ≠ ',')
    (rest : List Char) : Part.comma.run (blanks.chars ++ c :: rest) = none := by
  refine (run_bind_of (blanks_complete blanks mark rest) _).trans ?_
  have outside : StartsOutside (· == ',') (c :: rest) :=
    startsOutside_cons (p := (· == ',')) (beq_eq_false_iff_ne.2 noComma) rest
  exact run_bind_none (run_discard_none (run_one_none outside)) _

theorem reads_following :
    Reads (Part.comma *> Part.literal) Following.chars (fun f => f.literal.chars) Ends where
  sound read := by
    rw [seqRight_eq_bind, run_bind_iff] at read
    obtain ⟨_, _, commaRead, literalRead⟩ := read
    obtain ⟨before, after, rfl⟩ := comma_sound commaRead
    obtain ⟨l, rfl, rfl⟩ := reads_literal.sound literalRead
    exact ⟨⟨before, after, l⟩, Following.chars_append _ _, rfl⟩
  complete f rest ends := by
    have commaRead := comma_complete f.before f.after
      (Spelled.startsOutside_blank f.literal rest)
    rw [Following.chars_append, seqRight_eq_bind]
    exact (run_bind_of commaRead _).trans (reads_literal.complete f.literal ends)

/-- What follows a rule is not looked at. -/
def Anything (_ : List Char) : Prop := True

theorem reads_explicitValues :
    Reads Part.explicitValues ListRule.chars ListRule.values Anything where
  sound read := by
    simp only [Part.explicitValues, run_bind_iff, run_discard_iff, run_one_iff, run_pure_iff]
      at read
    obtain ⟨_, _, ⟨c, isOpening, rfl⟩, _, _, beforeRead, _, _, listRead, _, _, afterRead, _, _,
      ⟨d, isClosing, rfl⟩, rfl, rfl⟩ := read
    obtain ⟨before, rfl, -⟩ := reads_blanks.sound beforeRead
    obtain ⟨first, more, rfl, rfl⟩ := separated_sound reads_literal reads_following listRead
    obtain ⟨after, rfl, -⟩ := reads_blanks.sound afterRead
    obtain rfl : c = '{' := beq_iff_eq.1 isOpening
    obtain rfl : d = '}' := beq_iff_eq.1 isClosing
    exact ⟨⟨before, first, more, after⟩, ListRule.chars_append _ _, ListRule.values_eq _⟩
  complete r rest _ := by
    -- The list ends because a brace, and no comma, stands behind the last blanks.
    have failed : (Part.comma *> Part.literal).run (r.after.chars ++ '}' :: rest) = none := by
      rw [seqRight_eq_bind]
      exact run_bind_none (comma_none r.after rfl (by decide) rest) _
    have between : ∀ (f : Following) (rest : List Char), Ends (f.chars ++ rest) := by
      intro f rest
      rw [Following.chars_append]
      exact startsOutside_inert f.before rfl _
    have list := separated_complete reads_literal reads_following between
      (startsOutside_inert r.after rfl rest) failed Part.takes_following r.first r.more
      (ListRule.startsOutside_ending r.more r.after rest)
    rw [ListRule.chars_append]
    refine (run_bind_of (run_discard_of (run_one_cons rfl _)) _).trans ?_
    refine (run_bind_of (reads_blanks.complete r.before
      (Spelled.startsOutside_blank r.first _)) _).trans ?_
    refine (run_bind_of list _).trans ?_
    refine (run_bind_of (blanks_complete r.after rfl rest) _).trans ?_
    refine (run_bind_of (run_discard_of (run_one_cons rfl rest)) _).trans ?_
    rw [ListRule.values_eq]
    rfl

theorem opening_eq {c : Char} (bracket : Part.isBracket c = true) :
    (if (c == '[') = true then '[' else ']') = c := by
  simp only [Part.isBracket, Bool.or_eq_true, beq_iff_eq] at bracket
  rcases bracket with rfl | rfl <;> rfl

theorem closing_eq {c : Char} (bracket : Part.isBracket c = true) :
    (if (c == ']') = true then ']' else '[') = c := by
  simp only [Part.isBracket, Bool.or_eq_true, beq_iff_eq] at bracket
  rcases bracket with rfl | rfl <;> rfl

theorem reads_intervalRule :
    Reads Part.intervalRule IntervalRule.chars IntervalRule.interval Anything where
  sound read := by
    simp only [Part.intervalRule, run_bind_iff, run_one_iff, run_pure_iff] at read
    obtain ⟨c, _, ⟨opens, rfl⟩, _, _, beforeRead, _, _, lowerRead, _, _, commaRead, _, _,
      upperRead, _, _, afterRead, d, _, ⟨closes, rfl⟩, rfl, rfl⟩ := read
    obtain ⟨beforeLower, rfl, -⟩ := reads_blanks.sound beforeRead
    obtain ⟨lower, rfl, rfl⟩ := reads_lowerBound.sound lowerRead
    obtain ⟨afterLower, beforeUpper, rfl⟩ := comma_sound commaRead
    obtain ⟨upper, rfl, rfl⟩ := reads_upperBound.sound upperRead
    obtain ⟨afterUpper, rfl, -⟩ := reads_blanks.sound afterRead
    refine ⟨⟨c == '[', ⟨beforeLower, lower, afterLower⟩, ⟨beforeUpper, upper, afterUpper⟩,
      d == ']'⟩, ?_, rfl⟩
    rw [IntervalRule.chars_append, Padded.chars_append, Padded.chars_append,
      IntervalRule.opening, IntervalRule.closing, opening_eq opens, closing_eq closes]
    rfl
  complete r rest _ := by
    have opening : (r.opening == '[') = r.lowerInclusive := by
      unfold IntervalRule.opening
      cases r.lowerInclusive <;> rfl
    have closing : (r.closing == ']') = r.upperInclusive := by
      unfold IntervalRule.closing
      cases r.upperInclusive <;> rfl
    rw [IntervalRule.chars_append, Padded.chars_append, Padded.chars_append]
    refine (run_bind_of (run_one_cons r.isBracket_opening _) _).trans ?_
    refine (run_bind_of (reads_blanks.complete r.lower.before
      (Spelled.startsOutside_blank r.lower.item _)) _).trans ?_
    refine (run_bind_of (reads_lowerBound.complete r.lower.item
      (startsOutside_inert r.lower.after rfl _)) _).trans ?_
    refine (run_bind_of (comma_complete r.lower.after r.upper.before
      (Spelled.startsOutside_blank r.upper.item _)) _).trans ?_
    refine (run_bind_of (reads_upperBound.complete r.upper.item
      (startsOutside_inert r.upper.after r.isMark_closing rest)) _).trans ?_
    refine (run_bind_of (blanks_complete r.upper.after r.isMark_closing rest) _).trans ?_
    refine (run_bind_of (run_one_cons r.isBracket_closing rest) _).trans ?_
    rw [opening, closing]
    rfl

/-- The first character of a rule tells the alternatives apart. -/
theorem explicitValues_none (r : IntervalRule) (rest : List Char) :
    Part.explicitValues.run (r.chars ++ rest) = none := by
  have noBrace : (r.opening == '{') = false := by
    unfold IntervalRule.opening
    split <;> rfl
  have outside : StartsOutside (· == '{') (r.chars ++ rest) := by
    rw [IntervalRule.chars_append]
    exact startsOutside_cons (p := (· == '{')) noBrace _
  exact run_bind_none (run_discard_none (run_one_none outside)) _

theorem reads_rule : Reads Part.rule Rule.chars Rule.part Anything where
  sound read := by
    rcases run_orElse_cases read with explicit | interval
    · obtain ⟨_, valuesRead, rfl⟩ := run_map_iff.1 explicit
      obtain ⟨r, whole, rfl⟩ := reads_explicitValues.sound valuesRead
      exact ⟨.list r, whole, rfl⟩
    · obtain ⟨_, intervalRead, rfl⟩ := run_map_iff.1 interval
      obtain ⟨r, whole, rfl⟩ := reads_intervalRule.sound intervalRead
      exact ⟨.interval r, whole, rfl⟩
  complete r rest anything := by
    cases r with
    | list r =>
      have valuesRead := reads_explicitValues.complete r anything
      exact run_orElse_of_some (run_map_iff.2 ⟨_, valuesRead, rfl⟩) _
    | interval r =>
      have intervalRead := reads_intervalRule.complete r anything
      refine (run_orElse_of_none (run_map_none (explicitValues_none r rest) _) _).trans ?_
      exact run_map_iff.2 ⟨_, intervalRead, rfl⟩

/-! ## Parts -/

theorem run_rule_iff {text rest : List Char} {part : String → Part} :
    (Part.rule <* Part.blanks).run text = some (part, rest) ↔
      ∃ d : Decomposition, d.chars = text ∧ d.rule.part = part ∧ d.text.chars = rest := by
  rw [seqLeft_eq_bind]
  constructor
  · intro read
    simp only [run_bind_iff, run_pure_iff] at read
    obtain ⟨_, _, ruleRead, _, _, gapRead, rfl, rfl⟩ := read
    obtain ⟨rule, rfl, rfl⟩ := reads_rule.sound ruleRead
    have start := startsOutside_of_blanks gapRead
    obtain ⟨gap, rfl, -⟩ := reads_blanks.sound gapRead
    refine ⟨⟨rule, gap, ⟨_, start⟩⟩, ?_, rfl, rfl⟩
    rw [Decomposition.chars, List.append_assoc]
  · rintro ⟨d, rfl, rfl, rfl⟩
    rw [Decomposition.chars, List.append_assoc]
    refine (run_bind_of (reads_rule.complete d.rule trivial) _).trans ?_
    exact (run_bind_of (reads_blanks.complete d.gap d.text.start) _).trans rfl

theorem ofText_of_chars {text : String} (d : Decomposition) (spelled : d.chars = text.toList) :
    Part.ofText text = d.part := by
  rw [Part.ofText, run_rule_iff.2 ⟨d, spelled, rfl, rfl⟩]
  rfl

theorem ofText_of_not_exists {text : String}
    (plain : ¬ ∃ d : Decomposition, d.chars = text.toList) : Part.ofText text = .plain text := by
  rw [Part.ofText]
  cases read : (Part.rule <* Part.blanks).run text.toList with
  | none => rfl
  | some result =>
    obtain ⟨d, spelled, -, -⟩ := run_rule_iff.1 read
    exact absurd ⟨d, spelled⟩ plain

/-- What a text with a rule in front spells is read off some decomposition of it. -/
theorem exists_of_ofText_ne_plain {text : String} (ruled : Part.ofText text ≠ .plain text) :
    ∃ d : Decomposition, d.chars = text.toList ∧ Part.ofText text = d.part := by
  by_cases spelled : ∃ d : Decomposition, d.chars = text.toList
  · obtain ⟨d, spelled⟩ := spelled
    exact ⟨d, spelled, ofText_of_chars d spelled⟩
  · exact absurd (ofText_of_not_exists spelled) ruled

theorem Decomposition.part_ne_plain (d : Decomposition) (template : String) :
    d.part ≠ .plain template := by
  obtain ⟨rule, gap, tail⟩ := d
  cases rule with
  | list r => exact Part.noConfusion
  | interval r => exact Part.noConfusion

theorem ofText_eq_explicit_iff {text : String} {values : List String} {template : String} :
    Part.ofText text = .explicit values template ↔
      ∃ (r : ListRule) (gap : Blanks) (tail : Tail),
        r.chars ++ gap.chars ++ tail.chars = text.toList ∧
          r.values = values ∧ String.ofList tail.chars = template := by
  constructor
  · intro explicit
    obtain ⟨⟨rule, gap, tail⟩, spelled, part⟩ :=
      exists_of_ofText_ne_plain (by rw [explicit]; exact Part.noConfusion)
    rw [explicit] at part
    cases rule with
    | list r =>
      obtain ⟨rfl, rfl⟩ := Part.explicit.inj part
      exact ⟨r, gap, tail, spelled, rfl, rfl⟩
    | interval r => exact Part.noConfusion part
  · rintro ⟨r, gap, tail, spelled, rfl, rfl⟩
    exact ofText_of_chars ⟨.list r, gap, tail⟩ spelled

theorem ofText_eq_interval_iff {text : String} {interval : Interval} {template : String} :
    Part.ofText text = .interval interval template ↔
      ∃ (r : IntervalRule) (gap : Blanks) (tail : Tail),
        r.chars ++ gap.chars ++ tail.chars = text.toList ∧
          r.interval = interval ∧ String.ofList tail.chars = template := by
  constructor
  · intro isInterval
    obtain ⟨⟨rule, gap, tail⟩, spelled, part⟩ :=
      exists_of_ofText_ne_plain (by rw [isInterval]; exact Part.noConfusion)
    rw [isInterval] at part
    cases rule with
    | list r => exact Part.noConfusion part
    | interval r =>
      obtain ⟨rfl, rfl⟩ := Part.interval.inj part
      exact ⟨r, gap, tail, spelled, rfl, rfl⟩
  · rintro ⟨r, gap, tail, spelled, rfl, rfl⟩
    exact ofText_of_chars ⟨.interval r, gap, tail⟩ spelled

theorem ofText_eq_plain_iff {text template : String} :
    Part.ofText text = .plain template ↔
      template = text ∧ ¬ ∃ d : Decomposition, d.chars = text.toList := by
  constructor
  · intro plain
    have bare : ¬ ∃ d : Decomposition, d.chars = text.toList := by
      rintro ⟨d, spelled⟩
      rw [ofText_of_chars d spelled] at plain
      exact d.part_ne_plain template plain
    rw [ofText_of_not_exists bare] at plain
    exact ⟨(Part.plain.inj plain).symm, bare⟩
  · rintro ⟨rfl, bare⟩
    exact ofText_of_not_exists bare

/-- A part is what its decomposition by the grammar says, and there is at most one: an explicit
part has a list of literals in front of its text, an interval part an interval, and a part
without a rule in front is plain and kept to the letter. -/
theorem ofText_iff_decomposition (text : String) :
    (∀ values template, Part.ofText text = .explicit values template ↔
      ∃ (r : ListRule) (gap : Blanks) (tail : Tail),
        r.chars ++ gap.chars ++ tail.chars = text.toList ∧
          r.values = values ∧ String.ofList tail.chars = template) ∧
    (∀ interval template, Part.ofText text = .interval interval template ↔
      ∃ (r : IntervalRule) (gap : Blanks) (tail : Tail),
        r.chars ++ gap.chars ++ tail.chars = text.toList ∧
          r.interval = interval ∧ String.ofList tail.chars = template) ∧
    (∀ template, Part.ofText text = .plain template ↔
      template = text ∧ ¬ ∃ d : Decomposition, d.chars = text.toList) ∧
    (∀ d e : Decomposition, d.chars = text.toList → e.chars = text.toList → d = e) := by
  refine ⟨fun _ _ => ofText_eq_explicit_iff, fun _ _ => ofText_eq_interval_iff,
    fun _ => ofText_eq_plain_iff, ?_⟩
  intro d e dSpelled eSpelled
  exact Decomposition.chars_injective d e (dSpelled.trans eSpelled.symm)

/-- A comma without a literal behind it makes no list. -/
example : Part.ofText "\x7b1,\x7dx" = .plain "\x7b1,\x7dx" := by decide +kernel

end PluralTemplate.Grammar
