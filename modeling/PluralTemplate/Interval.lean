import PluralTemplate.Decimal.Shortest

/-!
# Intervals

An interval rule has a lower and an upper bound, and includes or leaves out each of
them. It is written with brackets that open towards an included bound, as in `[1,5[`.
-/

set_option autoImplicit false

namespace PluralTemplate

structure Interval where
  lower : Binary64
  upper : Binary64
  lowerInclusive : Bool
  upperInclusive : Bool
  deriving DecidableEq

namespace Interval

/-- A number is contained if it equals an included bound or lies strictly between the
two bounds. -/
def contains (i : Interval) (x : Binary64) : Bool :=
  (i.lowerInclusive && x.same i.lower) || (i.upperInclusive && x.same i.upper)
    || (i.lower.below x && x.below i.upper)

/-- An interval is empty if its bounds are in the wrong order, or if they coincide and
neither is included. -/
def isEmpty (i : Interval) : Bool :=
  i.upper.below i.lower || (i.lower.same i.upper && !i.lowerInclusive && !i.upperInclusive)

/-- Bounds are written as numbers are, but infinity as a rule spells it. -/
def boundChars (x : Binary64) : List Char :=
  if x = .signed false .infinity then "Inf".toList
  else if x = .signed true .infinity then "-Inf".toList
  else x.chars

/-- The text of the rule. -/
def chars (i : Interval) : List Char :=
  (if i.lowerInclusive then '[' else ']') :: boundChars i.lower
    ++ ',' :: boundChars i.upper ++ [if i.upperInclusive then ']' else '[']

def text (i : Interval) : String := String.ofList i.chars

/-- The same bounds by number, and the same inclusions. -/
def same (i j : Interval) : Bool :=
  i.lower.same j.lower && i.upper.same j.upper
    && i.lowerInclusive == j.lowerInclusive && i.upperInclusive == j.upperInclusive

end Interval

end PluralTemplate
