import PluralTemplate.Text.Case
import PluralTemplate.Text.Cluster

/-!
# Filters

A filter changes a name and the text of a value in the same way, so that a placeholder
can ask for another letter case by its own spelling.
-/

set_option autoImplicit false

namespace PluralTemplate

/-- A change of a name and of a value's text. -/
abbrev Filter := String → String

namespace Filter

/-- Changes nothing. -/
def stringify : Filter := id

def upper : Filter := fun text => String.ofList (Text.Case.upper text.toList)

def lower : Filter := fun text => String.ofList (Text.Case.lower text.toList)

/-- Puts the first grapheme cluster in upper case. -/
def capitalize : Filter := fun text =>
  let (first, rest) := Text.Cluster.splitFirst text.toList
  String.ofList (Text.Case.upper first ++ rest)

end Filter

end PluralTemplate
