import PluralTemplate.Dictionary
import PluralTemplate.Part.Reader
import PluralTemplate.Text.Split

/-!
# Variant sets

The parts of a template are gathered by kind. A later explicit part takes over the
values it shares with an earlier one, while intervals and plain parts keep their order.
The first part of any kind is the default.
-/

set_option autoImplicit false

namespace PluralTemplate

structure VariantSet where
  /-- What each explicitly listed value is bound to, by canonical text. -/
  explicit : Dictionary String
  intervals : List (Interval × String)
  /-- The plain parts, in order. -/
  ordinals : List String
  default : String

namespace VariantSet

/-- The set without any part. -/
def empty (default : String) : VariantSet := ⟨.empty, [], [], default⟩

/-- The set with one more part. -/
def add (set : VariantSet) : Part → VariantSet
  | .explicit values template =>
    { set with explicit := values.foldl (fun d value => d.insert value template) set.explicit }
  | .interval rule template => { set with intervals := set.intervals ++ [(rule, template)] }
  | .plain template => { set with ordinals := set.ordinals ++ [template] }

/-- The set of a list of parts. A list without parts has the whole template for its
default. -/
def ofParts (whole : String) (parts : List Part) : VariantSet :=
  parts.foldl add (empty ((parts.head?.map Part.template).getD whole))

/-- The parts of a template. -/
def parts (template delimiter : String) : List Part :=
  (Text.split delimiter template).map Part.ofText

/-- The variants a template spells. -/
def ofTemplate (template delimiter : String) : VariantSet :=
  ofParts template (parts template delimiter)

/-- Whether two sets bind the same values to the same texts, in equal intervals, plain
parts and defaults. Bounds are compared as numbers. -/
def same (a b : VariantSet) : Bool :=
  a.explicit.entries == b.explicit.entries
    && a.intervals.length == b.intervals.length
    && (a.intervals.zip b.intervals).all (fun (x, y) => x.1.same y.1 && x.2 == y.2)
    && a.ordinals == b.ordinals && a.default == b.default

end VariantSet

end PluralTemplate
