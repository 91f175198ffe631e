/-!
# Plural categories

The six categories that languages distinguish, in their customary order.
-/

set_option autoImplicit false

namespace PluralTemplate.Plural

inductive Category where
  | zero
  | one
  | two
  | few
  | many
  | other
  deriving DecidableEq, Repr

namespace Category

def name : Category → String
  | zero => "zero"
  | one => "one"
  | two => "two"
  | few => "few"
  | many => "many"
  | other => "other"

/-- The place of a category in the customary order. -/
def place : Category → Nat
  | zero => 0
  | one => 1
  | two => 2
  | few => 3
  | many => 4
  | other => 5

/-- All categories in order. -/
def all : List Category := [zero, one, two, few, many, other]

/-- The category of a name. -/
def ofName? (name : String) : Option Category := all.find? fun c => c.name == name

end Category

end PluralTemplate.Plural
