import PluralTemplate.Lint
import PluralTemplate.Locale

/-!
# Inspecting templates

The parts of a template are listed in order, each with its rule. For a locale, each plain
part is labelled with the category it stands for.
-/

set_option autoImplicit false

namespace PluralTemplate

/-- What a plain part stands for. -/
inductive PlainLabel where
  | category (category : Plural.Category)
  /-- There are more plain parts than categories. -/
  | unused
  deriving DecidableEq

def PlainLabel.text : PlainLabel → String
  | category c => c.name
  | unused => "(unused)"

structure PartRow where
  index : Nat
  kind : String
  rule : String
  /-- The label of a plain part, if a locale is given. -/
  label : Option PlainLabel
  template : String
  deriving DecidableEq

namespace PartRow

/-- The label of the plain part at a place among the plain parts. -/
def labelAt (categories : List Plural.Category) (place : Nat) : PlainLabel :=
  match categories[place]? with
  | some c => .category c
  | none => .unused

/-- The rows of parts that begin at an index, after so many plain parts. -/
def rowsFrom (categories : Option (List Plural.Category)) :
    Nat → Nat → List Part → List PartRow
  | _, _, [] => []
  | index, plains, part :: rest =>
    { index, kind := part.kind, rule := part.ruleText, template := part.template
      label := if part.isPlain then categories.map (labelAt · plains) else none }
      :: rowsFrom categories (index + 1) (if part.isPlain then plains + 1 else plains) rest

/-- The rows of a list of parts, for the categories of a locale. -/
def rows (categories : Option (List Plural.Category)) (parts : List Part) : List PartRow :=
  rowsFrom categories 0 0 parts

end PartRow

end PluralTemplate
