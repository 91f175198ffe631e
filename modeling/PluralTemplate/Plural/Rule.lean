import PluralTemplate.Plural.Category
import PluralTemplate.Plural.Operands
import PluralTemplate.Ranges

/-!
# Plural rules

A rule gives a category and the condition under which a number belongs to it. A
condition is a list of alternatives, each a list of relations that must all hold. A
relation asks whether an operand, possibly after division with remainder, lies in one of
some ranges, or in none of them.

A number belongs to the category of the first rule whose condition holds, and to `other`
when none does.
-/

set_option autoImplicit false

namespace PluralTemplate.Plural

/-- What a relation looks at: the number as a whole, or one of its operands. -/
inductive Term where
  | n
  | i
  | v
  | f
  | t
  deriving DecidableEq, Repr

structure Relation where
  term : Term
  modulus : Option Nat
  ranges : Ranges
  /-- Whether the relation asks that no range contains the term. -/
  negated : Bool
  deriving DecidableEq, Repr

/-- Alternatives of relations. -/
abbrev Condition := List (List Relation)

/-- The value of a term. The number as a whole has one only without a fraction. -/
def Operands.term? (o : Operands) : Term → Option Nat
  | .n => if o.w = 0 then some o.i else none
  | .i => some o.i
  | .v => some o.v
  | .f => some o.f
  | .t => some o.t

/-- A term without a value is in no range. -/
def Relation.holds (r : Relation) (o : Operands) : Bool :=
  match o.term? r.term with
  | none => r.negated
  | some x => Ranges.contain r.ranges (r.modulus.elim x (x % ·)) != r.negated

def Condition.holds (condition : Condition) (o : Operands) : Bool :=
  condition.any fun relations => relations.all (·.holds o)

/-- The rules of a language, in the order of their categories. -/
abbrev Rules := List (Category × Condition)

namespace Rules

/-- The category of a number with these operands. -/
def category (rules : Rules) (o : Operands) : Category :=
  match rules.find? fun rule => Condition.holds rule.2 o with
  | some rule => rule.1
  | none => .other

/-- The category of a quantity; one without operands is `other`. -/
def detect (rules : Rules) (q : Quantity) : Category :=
  match Operands.ofQuantity? q with
  | some o => rules.category o
  | none => .other

/-- The categories that the rules tell apart, in the customary order and each once, however
the rules list them. -/
def categories (rules : Rules) : List Category :=
  Category.all.filter fun c => c ∈ rules.map Prod.fst ++ [.other]

end Rules

/-! ## Writing relations down -/

/-- A single number as a range. -/
def just (x : Nat) : Ranges := [(x, x)]

/-- The numbers from `low` to `high`. -/
def span (low high : Nat) : Ranges := [(low, high)]

/-- The term lies in one of the ranges. -/
def Term.is (term : Term) (ranges : Ranges) : Relation := ⟨term, none, ranges, false⟩

/-- The term lies in none of the ranges. -/
def Term.isNot (term : Term) (ranges : Ranges) : Relation := ⟨term, none, ranges, true⟩

/-- The remainder of the term lies in one of the ranges. -/
def Term.modIs (term : Term) (modulus : Nat) (ranges : Ranges) : Relation :=
  ⟨term, some modulus, ranges, false⟩

/-- The remainder of the term lies in none of the ranges. -/
def Term.modIsNot (term : Term) (modulus : Nat) (ranges : Ranges) : Relation :=
  ⟨term, some modulus, ranges, true⟩

end PluralTemplate.Plural
