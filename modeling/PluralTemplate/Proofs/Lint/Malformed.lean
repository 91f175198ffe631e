import PluralTemplate.Proofs.Lint.Positions
import PluralTemplate.Proofs.Part.Reading

/-!
# Damaged rules are reported

The test for parts that begin like a rule knows nothing of the grammar of rules, and has a wider
notion of white space. It still accepts everything that begins as some rule does. Behind the
bracket and the blanks of a rule stands a digit or a minus sign (`Rule.exists_opening`), which is
white in neither sense, so a text that agrees with a rule up to there passes the test
(`AgreeToStart.opensLikeRule`). If it is plain, the warning is given wherever the text is a part
(`reportedMalformed_iff`).

A rule that is cut off is always plain, since no rule is the beginning of another one
(`ofText_of_cut`).
-/

set_option autoImplicit false

namespace PluralTemplate

/-! ## How rules begin -/

namespace Grammar

/-- The first characters of literals and lower bounds. -/
def StartsNumber (c : Char) : Prop := c.isDigit = true ∨ c = '-'

theorem Literal.exists_first (l : Literal) :
    ∃ c rest, StartsNumber c ∧ l.chars = c :: rest := by
  obtain ⟨c, rest, digit, cons⟩ := l.exists_body_eq_cons
  unfold Literal.chars Literal.signChars
  split
  · exact ⟨'-', l.body, .inr rfl, rfl⟩
  · exact ⟨c, rest, .inl digit, cons⟩

theorem LowerBound.exists_first (bound : LowerBound) :
    ∃ c rest, StartsNumber c ∧ bound.chars = c :: rest := by
  cases bound with
  | minusInfinity => exact ⟨'-', ['I', 'n', 'f'], .inr rfl, rfl⟩
  | literal l => exact l.exists_first

/-- Behind its bracket and blanks, a rule goes on with a number. -/
theorem Rule.exists_opening (r : Rule) (rest : List Char) :
    ∃ (opening : Char) (blanks : Blanks) (next : Char) (behind : List Char),
      r.chars ++ rest = opening :: (blanks.chars ++ next :: behind) ∧
      (opening = '{' ∨ Part.isBracket opening = true) ∧ StartsNumber next := by
  cases r with
  | list r =>
    obtain ⟨next, more, starts, first⟩ := r.first.exists_first
    have begins : r.chars ++ rest = _ := r.chars_append rest
    rw [first, List.cons_append] at begins
    exact ⟨_, r.before, next, _, begins, .inl rfl, starts⟩
  | interval r =>
    obtain ⟨next, more, starts, first⟩ := r.lower.item.exists_first
    have item : Spelled.chars r.lower.item = next :: more := first
    have begins : r.chars ++ rest = _ := r.chars_append rest
    rw [Padded.chars_append, item, List.cons_append] at begins
    exact ⟨_, r.lower.before, next, _, begins, .inr r.isBracket_opening, starts⟩

theorem StartsNumber.isWhiteSpace {c : Char} (starts : StartsNumber c) :
    Text.isWhiteSpace c = false := by
  cases starts with
  | inl digit => exact Text.isWhiteSpace_of_isDigit digit
  | inr minus =>
    rw [minus]
    rfl

/-- A rule that is cut off before its end leaves a plain part. -/
theorem ofText_of_cut {r : Rule} {cut : String} (within : cut.toList <+: r.chars)
    (shorter : cut.toList ≠ r.chars) : Part.ofText cut = .plain cut := by
  apply ofText_of_not_exists
  intro ⟨d, spelled⟩
  rw [← spelled, Decomposition.chars, List.append_assoc] at within shorter
  obtain ⟨rules, nothing⟩ := Rule.eq_of_prefix within
  apply shorter
  rw [rules, nothing, List.append_nil]

end Grammar

namespace Lint

open Grammar (StartsNumber)

/-! ## What begins like a rule -/

/-- A bracket, white space and what could be a number begin like a rule. -/
theorem opensLikeRule_of_startsNumber {opening next : Char} {spaces : List Char}
    (opens : opening = '{' ∨ Part.isBracket opening = true)
    (white : ∀ c ∈ spaces, Text.isWhiteSpace c = true) (starts : StartsNumber next)
    (rest : List Char) : opensLikeRule (opening :: (spaces ++ next :: rest)) = true := by
  have dropped : (spaces ++ next :: rest).dropWhile Text.isWhiteSpace = next :: rest :=
    dropWhile_run white (startsOutside_cons starts.isWhiteSpace rest)
  have number : (next.isDigit || next == '-') = true := by
    simpa [StartsNumber] using starts
  unfold opensLikeRule
  simp only [dropped, number, Bool.true_or]
  split
  · rfl
  · rename_i noBrace
    rw [opens.resolve_left noBrace]
    rfl

/-- Two texts agree up to the first character behind the opening bracket that is not white. -/
def AgreeToStart (white : Char → Bool) (text other : String) : Prop :=
  ∃ (opening : Char) (spaces : List Char) (next : Char) (rest otherRest : List Char),
    text.toList = opening :: (spaces ++ next :: rest) ∧
    other.toList = opening :: (spaces ++ next :: otherRest) ∧
    (∀ c ∈ spaces, white c = true) ∧ white next = false

/-- What agrees with a rule up to there begins like one. It does not matter which characters count
as white, as long as blanks do and only white space does. -/
theorem AgreeToStart.opensLikeRule {white : Char → Bool} {text other : String}
    (wide : ∀ c, Text.isBlank c = true → white c = true)
    (narrow : ∀ c, white c = true → Text.isWhiteSpace c = true)
    (agree : AgreeToStart white text other) {r : Grammar.Rule} {behind : List Char}
    (ruled : r.chars ++ behind = text.toList) : Lint.opensLikeRule other.toList = true := by
  obtain ⟨opening, spaces, next, rest, otherRest, whole, otherWhole, allWhite, visible⟩ := agree
  obtain ⟨bracket, blanks, first, more, begins, opens, starts⟩ := r.exists_opening behind
  have number : StartsOutside white (first :: more) :=
    StartsOutside.mono (startsOutside_cons starts.isWhiteSpace more) narrow
  have same : opening :: (spaces ++ next :: rest) = bracket :: (blanks.chars ++ first :: more) := by
    rw [← whole, ← ruled, begins]
  obtain ⟨brackets, same⟩ := List.cons.inj same
  obtain ⟨-, nexts⟩ := run_unique allWhite (startsOutside_cons visible rest)
    (fun c member => wide c (blanks.blank c member)) number same
  obtain ⟨sameNext, -⟩ := List.cons.inj nexts
  rw [otherWhole, brackets, sameNext]
  exact opensLikeRule_of_startsNumber opens (fun c member => narrow c (allWhite c member)) starts
    otherRest

/-! ## The warning -/

/-- A part is warned about as malformed if it is plain and begins like a rule. -/
theorem malformedRule_mem_ofPart_iff {index offset place start : Nat} {bound : Dictionary Nat}
    {text written : String} :
    Warning.malformedRule place start written ∈ (ofPart index offset bound text).1 ↔
      place = index ∧ start = offset ∧
        text = written ∧ Part.ofText text = .plain text ∧ opensLikeRule text.toList = true := by
  unfold ofPart
  cases parsed : Part.ofText text with
  | explicit values template =>
    apply iff_of_false
    · intro member
      obtain ⟨previous, value, other⟩ := exists_duplicate_of_mem_rebind member
      cases other
    · simp
  | interval rule template =>
    dsimp only
    split <;> simp
  | plain template =>
    obtain ⟨letter, -⟩ := Grammar.ofText_eq_plain_iff.1 parsed
    dsimp only
    split
    · rename_i opens
      simp [letter, opens, eq_comm]
    · rename_i other
      simp [other]

theorem malformedRule_mem_ofTemplate_iff {template delimiter written : String}
    {index offset : Nat} :
    Warning.malformedRule index offset written ∈ ofTemplate template delimiter ↔
      offset = (joined delimiter ((Text.split delimiter template).take index)).utf8ByteSize ∧
        (Text.split delimiter template)[index]? = some written ∧
        Part.ofText written = .plain written ∧ opensLikeRule written.toList = true := by
  unfold ofTemplate
  rw [mem_ofParts_iff (fun _ _ _ _ => malformedRule_mem_ofPart_iff) _ (Nat.zero_add index).symm,
    Text.byteCount_toList, Nat.zero_add]
  apply and_congr_right
  intro _
  constructor
  · intro ⟨text, here, same, damaged⟩
    rw [← same]
    exact ⟨here, damaged⟩
  · intro ⟨here, damaged⟩
    exact ⟨written, here, rfl, damaged⟩

/-- Wherever the text is a part of a template, it is warned about as a malformed rule, at its index
and at the byte where it begins. -/
def ReportedMalformed (text : String) : Prop :=
  ∀ (template delimiter : String) (index : Nat),
    (Text.split delimiter template)[index]? = some text →
    Warning.malformedRule index
      (joined delimiter ((Text.split delimiter template).take index)).utf8ByteSize text ∈
        ofTemplate template delimiter

/-- A text is a template of its own, so what is reported everywhere is reported there. -/
theorem reportedMalformed_iff {text : String} :
    ReportedMalformed text ↔
      Part.ofText text = .plain text ∧ opensLikeRule text.toList = true := by
  constructor
  · intro reported
    have alone : (Text.split "" text)[0]? = some text := by
      simp [Text.split, Text.pieces]
    exact (malformedRule_mem_ofTemplate_iff.1 (reported text "" 0 alone)).2.2
  · intro damaged template delimiter index here
    exact malformedRule_mem_ofTemplate_iff.2 ⟨rfl, here, damaged⟩

/-- Take a text with a rule, and another one that agrees with it up to the first character behind
the opening bracket that is not white, in whichever sense. Wherever the other one is a part of a
template, it is warned about as a malformed rule, just when it has no rule itself. What is left of
the text when it is cut behind that character, but before the closing bracket of its rule, is
always plain and warned about. -/
theorem damaged_rule_reported {white : Char → Bool}
    (wide : ∀ c, Text.isBlank c = true → white c = true)
    (narrow : ∀ c, white c = true → Text.isWhiteSpace c = true) {text : String}
    (ruled : Part.ofText text ≠ .plain text) :
    (∀ damaged, AgreeToStart white text damaged →
      (ReportedMalformed damaged ↔ Part.ofText damaged = .plain damaged)) ∧
    (∃ d : Grammar.Decomposition, d.chars = text.toList) ∧
    ∀ (d : Grammar.Decomposition) (cut : String), d.chars = text.toList →
      cut.toList <+: d.rule.chars → cut.toList ≠ d.rule.chars → AgreeToStart white text cut →
        Part.ofText cut = .plain cut ∧ ReportedMalformed cut := by
  obtain ⟨d, spelled, -⟩ := Grammar.exists_of_ofText_ne_plain ruled
  have begins : d.rule.chars ++ (d.gap.chars ++ d.text.chars) = text.toList := by
    rw [← spelled, Grammar.Decomposition.chars, List.append_assoc]
  have reported : ∀ damaged, AgreeToStart white text damaged →
      (ReportedMalformed damaged ↔ Part.ofText damaged = .plain damaged) := by
    intro damaged agree
    rw [reportedMalformed_iff, and_iff_left (agree.opensLikeRule wide narrow begins)]
  refine ⟨reported, ⟨d, spelled⟩, ?_⟩
  intro d cut _ within shorter agree
  have plain := Grammar.ofText_of_cut within shorter
  exact ⟨plain, (reported cut agree).2 plain⟩

/-- The closing bracket of an interval is missing, or all that follows its comma. -/
theorem damaged_rule_reported_unclosed :
    Part.ofText "[ 0,10]few" ≠ .plain "[ 0,10]few" ∧
    AgreeToStart Text.isBlank "[ 0,10]few" "[ 0,10 few" ∧
    Part.ofText "[ 0,10 few" = .plain "[ 0,10 few" ∧
    Warning.malformedRule 1 5 "[ 0,10 few" ∈ ofTemplate "none|[ 0,10 few|many" "|" ∧
    Part.ofText "[ 0," = .plain "[ 0," ∧ ReportedMalformed "[ 0," := by
  have ruled : Part.ofText "[ 0,10]few" ≠ .plain "[ 0,10]few" := by decide +kernel
  have plain : Part.ofText "[ 0,10 few" = .plain "[ 0,10 few" := by decide +kernel
  have agrees : ∀ damaged : String, "[ 0".toList <+: damaged.toList →
      AgreeToStart Text.isBlank "[ 0,10]few" damaged := by
    intro damaged ⟨rest, whole⟩
    exact ⟨'[', [' '], '0', ",10]few".toList, rest, rfl, whole.symm, List.all_eq_true.1 rfl, rfl⟩
  let nothing : Grammar.Blanks := ⟨[], List.all_eq_true.1 rfl⟩
  let space : Grammar.Blanks := ⟨[' '], List.all_eq_true.1 rfl⟩
  let zero : Grammar.Literal := ⟨false, ⟨['0'], List.cons_ne_nil _ _, List.all_eq_true.1 rfl⟩, none⟩
  let ten : Grammar.Literal :=
    ⟨false, ⟨['1', '0'], List.cons_ne_nil _ _, List.all_eq_true.1 rfl⟩, none⟩
  let d : Grammar.Decomposition :=
    ⟨.interval ⟨true, ⟨space, .literal zero, nothing⟩, ⟨nothing, .literal ten, nothing⟩, true⟩,
      nothing, ⟨['f', 'e', 'w'], startsOutside_cons rfl _⟩⟩
  have spelled : d.chars = "[ 0,10]few".toList := rfl
  have header : d.rule.chars = "[ 0,10]".toList := rfl
  obtain ⟨reported, -, cuts⟩ := damaged_rule_reported (fun _ blank => blank)
    (fun c => Text.isWhiteSpace_of_isBlank c) ruled
  have agree := agrees "[ 0,10 few" (by decide)
  have member := (reported _ agree).2 plain "none|[ 0,10 few|many" "|" 1 (by decide +kernel)
  have short := cuts d "[ 0," spelled (by rw [header]; decide) (by rw [header]; decide)
    (agrees _ (by decide))
  exact ⟨ruled, agree, plain, member, short⟩

end Lint

end PluralTemplate
