import PluralTemplate.Part
import PluralTemplate.Quantity
import PluralTemplate.Text.Reader

/-!
# Reading parts

A rule is recognised at the very start of a part: `{` literals `}` lists values, and a
bracket, two bounds and a bracket give an interval. Blanks may stand around each
literal and bound, and those between the rule and its text are dropped. A part whose
start is not exactly a rule is plain, and kept to the letter.
-/

set_option autoImplicit false

namespace PluralTemplate.Part

open Reader

/-- The blanks that stand here, if any. -/
def blanks : Reader Unit := discard (span Text.isBlank)

def digits : Reader (List Char) := do
  let run ← span Char.isDigit
  if run.isEmpty then failure else return run

/-- A point with the digits behind it. -/
def fraction : Reader (List Char) := do
  let point ← one (· == '.')
  let places ← digits
  return point :: places

/-- A literal is digits after an optional minus sign, with digits after an optional
point. -/
def literal : Reader (List Char) := do
  let sign ← optional (one (· == '-'))
  let whole ← digits
  let behind ← optional fraction
  return sign.toList ++ whole ++ behind.getD []

/-- A comma with the blanks around it. -/
def comma : Reader Unit := do
  blanks
  discard (one (· == ','))
  blanks

theorem takes_digits : Takes 0 digits := by
  refine (takes_span Char.isDigit).bind (n := 0) fun run => ?_
  split
  · exact takes_failure
  · exact takes_pure run

theorem takes_fraction : Takes 1 fraction :=
  (takes_one _).bind fun _ => takes_digits.bind fun _ => takes_pure _

theorem takes_literal : Takes 0 literal :=
  (takes_one _).optional.bind fun _ => takes_digits.bind fun _ =>
    takes_fraction.optional.bind fun _ => takes_pure _

theorem takes_blanks : Takes 0 blanks := (takes_span Text.isBlank).discard

theorem takes_comma : Takes 1 comma :=
  takes_blanks.bind fun _ => (takes_one _).discard.bind fun _ => takes_blanks

/-- Every literal but the first costs a comma, so lists come to an end. -/
theorem takes_following : Takes 1 (comma *> literal) := by
  rw [seqRight_eq_bind]
  exact takes_comma.bind fun _ => takes_literal

/-- The values of an explicit rule, in canonical form. -/
def explicitValues : Reader (List String) := do
  discard (one (· == '{'))
  blanks
  let literals ← separated literal comma takes_following
  blanks
  discard (one (· == '}'))
  return literals.map fun l => Quantity.canonicalLiteral (String.ofList l)

def isBracket (c : Char) : Bool := c == '[' || c == ']'

/-- A literal, as the number it spells. -/
def decimal : Reader Binary64 := do Numeral.binary64? (← literal)

/-- A lower bound may be negative infinity. -/
def lowerBound : Reader Binary64 :=
  (do word ['-', 'I', 'n', 'f']; return .signed true .infinity) <|> decimal

/-- An upper bound may be positive infinity, with or without a sign. -/
def upperBound : Reader Binary64 :=
  (do discard (optional (one (· == '+'))); word ['I', 'n', 'f']; return .signed false .infinity)
    <|> decimal

def intervalRule : Reader Interval := do
  let opening ← one isBracket
  blanks
  let lower ← lowerBound
  comma
  let upper ← upperBound
  blanks
  let closing ← one isBracket
  return ⟨lower, upper, opening == '[', closing == ']'⟩

/-- A rule, as what it makes of the text behind it. -/
def rule : Reader (String → Part) :=
  (explicit <$> explicitValues) <|> (interval <$> intervalRule)

/-- The part that a text spells. -/
def ofText (text : String) : Part :=
  match (rule <* blanks).run text.toList with
  | some (part, rest) => part (String.ofList rest)
  | none => plain text

end PluralTemplate.Part
