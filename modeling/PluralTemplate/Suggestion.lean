import PluralTemplate.Locale
import PluralTemplate.Text.Distance

/-!
# Suggestions for a misspelled name

The names meant may be those that differ from the given one in at most two characters.
Up to three are suggested, the closest first.
-/

set_option autoImplicit false

namespace PluralTemplate.Suggestion

/-- The largest distance at which a name is suggested. -/
def reach : Nat := 2

/-- How many names are suggested. -/
def limit : Nat := 3

/-- Candidates in the order of distance, and of name at the same distance. -/
def precedes (a b : Nat × String) : Bool := a.1 < b.1 || (a.1 == b.1 && a.2 ≤ b.2)

/-- The suggestions for a name, whose letter case does not count, among the available
names. -/
def compute (name : String) (available : List String) : List String :=
  let lowered := name.toList.map Char.toLower
  let scored := available.map fun candidate =>
    (Text.distance lowered candidate.toList, candidate)
  let near := scored.filter fun entry => entry.1 ≤ reach
  ((near.mergeSort precedes).take limit).map Prod.snd

/-- The suggestions for a locale, which are languages. -/
def forLocale (locale : String) (available : List String) : List String :=
  compute (Locale.primarySubtag locale) available

end PluralTemplate.Suggestion
