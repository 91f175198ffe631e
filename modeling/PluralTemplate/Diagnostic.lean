import PluralTemplate.Lint

/-!
# Diagnostics

A diagnostic is a message for a person, with a code, advice, and the stretch of the
template it is about.
-/

set_option autoImplicit false

namespace PluralTemplate

/-- A stretch of a template in bytes, with a remark. -/
structure Label where
  offset : Nat
  length : Nat
  remark : String
  deriving DecidableEq, Repr

structure Diagnostic where
  message : String
  code : String
  severity : String
  help : Option String
  labels : List Label
  deriving DecidableEq, Repr

namespace Diagnostic

/-- The length of the part that begins at a byte: up to the next delimiter or else to the end,
and never less than one, so that it can be pointed at. The delimiter is looked for anew. -/
def labelLength (template delimiter : String) (offset : Nat) : Nat :=
  let rest := Text.dropBytes offset template.toList
  let next := if delimiter.isEmpty then none else Text.firstOccurrence? delimiter.toList rest
  max 1 (next.getD (Text.byteCount rest))

/-- The diagnostic for a warning about a template. -/
def ofWarning (template delimiter : String) (warning : Warning) : Diagnostic :=
  let offset := min warning.offset (Text.byteCount template.toList)
  { message := warning.message
    code := "varia::lint"
    severity := "Warning"
    help := some warning.advice
    labels := [⟨offset, labelLength template delimiter offset, "this part"⟩] }

/-- The diagnostic for a locale without plural rules, with the names it may have been
meant for. -/
def ofUnknownLocale (locale : String) (suggestions : List String) : Diagnostic :=
  { message := "no plural rules for locale '" ++ locale ++ "'"
    code := "varia::locale"
    severity := "Error"
    help :=
      if suggestions.isEmpty then none
      else some ("did you mean: " ++ String.intercalate ", " suggestions ++ "?")
    labels := [] }

end Diagnostic

end PluralTemplate
