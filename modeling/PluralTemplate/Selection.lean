import PluralTemplate.Locale
import PluralTemplate.VariantSet

/-!
# Selection

A variant is selected for a quantity in this order: the text bound to its canonical
text, the first interval that contains its value, the plain variant at the place of its
plural category, and the default variant.
-/

set_option autoImplicit false

namespace PluralTemplate

/-- The place of the quantity's category among those of the locale. A locale without
rules has one place. -/
def Registry.categoryIndex (registry : Registry) (locale : String) (q : Quantity) : Nat :=
  match registry.classifier locale with
  | .error _ => 0
  | .ok classifier => classifier.index q

/-- The ways a variant can be selected. -/
inductive Choice where
  | explicit (template : String)
  | interval (rule : Interval) (template : String)
  | plural (index : Nat) (template : String)
  | default (template : String)
  deriving DecidableEq

def Choice.template : Choice → String
  | explicit template => template
  | interval _ template => template
  | plural _ template => template
  | default template => template

namespace VariantSet

/-- The variant for a quantity, and how it was selected. -/
def choose (set : VariantSet) (q : Quantity) (locale : String) (registry : Registry) :
    Choice :=
  match set.explicit.get? q.canonical with
  | some template => .explicit template
  | none =>
    match set.intervals.find? fun entry => entry.1.contains q.value with
    | some (rule, template) => .interval rule template
    | none =>
      let index := registry.categoryIndex locale q
      match set.ordinals[index]? with
      | some template => .plural index template
      | none => .default set.default

/-- The text of the variant for a quantity. There always is one. -/
def select (set : VariantSet) (q : Quantity) (locale : String) (registry : Registry) :
    String :=
  (set.choose q locale registry).template

end VariantSet

end PluralTemplate
