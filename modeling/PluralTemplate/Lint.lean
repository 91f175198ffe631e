import PluralTemplate.Text.Bytes
import PluralTemplate.VariantSet

/-!
# Warnings about a template

Three things are worth a warning: a plain part that begins like a rule, an interval that
contains no number, and an explicit value that an earlier part has bound already. Each
warning names its part by index and by the byte where the part begins.
-/

set_option autoImplicit false

namespace PluralTemplate

inductive Warning where
  | malformedRule (index offset : Nat) (text : String)
  | emptyInterval (index offset : Nat) (rule : Interval)
  | duplicateExplicitValue (index offset previous : Nat) (value : String)
  deriving DecidableEq

namespace Warning

/-- The index of the part. -/
def index : Warning → Nat
  | malformedRule index _ _ => index
  | emptyInterval index _ _ => index
  | duplicateExplicitValue index _ _ _ => index

/-- The byte of the template at which the part begins. -/
def offset : Warning → Nat
  | malformedRule _ offset _ => offset
  | emptyInterval _ offset _ => offset
  | duplicateExplicitValue _ offset _ _ => offset

def kind : Warning → String
  | malformedRule _ _ _ => "malformed_rule"
  | emptyInterval _ _ _ => "empty_interval"
  | duplicateExplicitValue _ _ _ _ => "duplicate_explicit_value"

def message : Warning → String
  | malformedRule index _ text =>
    "part " ++ toString index ++ " looks like a rule but is treated as a plain variant: '"
      ++ text ++ "'"
  | emptyInterval index _ rule =>
    "part " ++ toString index ++ " has an empty interval " ++ rule.text
  | duplicateExplicitValue index _ previous value =>
    "value " ++ value ++ " in part " ++ toString index ++ " overrides the binding from part "
      ++ toString previous

/-- What the author of the template can do about it. -/
def advice : Warning → String
  | malformedRule _ _ _ =>
    "rules are `\x7bn,...\x7d` or an interval such as `[a,b[`; bounds may be -Inf or +Inf"
  | emptyInterval _ _ _ => "the lower bound must not exceed the upper bound"
  | duplicateExplicitValue _ _ _ _ => "the later part wins; remove one of the bindings"

end Warning

namespace Lint

/-- A part begins like a rule if its bracket is followed, after white space, by something
that could begin a number. -/
def opensLikeRule (text : List Char) : Bool :=
  match text with
  | [] => false
  | opening :: rest =>
    match rest.dropWhile Text.isWhiteSpace with
    | [] => false
    | next :: _ =>
      if opening = '{' then next.isDigit || next == '-'
      else Part.isBracket opening
        && (next.isDigit || next == '-' || next == '+' || next == 'I')

/-- The warnings for the values of one explicit part, and the bindings after it. The
bindings hold for each value the last part that lists it. -/
def rebind (index offset : Nat) :
    Dictionary Nat → List String → List Warning × Dictionary Nat
  | bound, [] => ([], bound)
  | bound, value :: values =>
    let (warnings, final) := rebind index offset (bound.insert value index) values
    match bound.get? value with
    | some previous => (.duplicateExplicitValue index offset previous value :: warnings, final)
    | none => (warnings, final)

/-- The warnings for a part at an index and offset, and the bindings after it. -/
def ofPart (index offset : Nat) (bound : Dictionary Nat) (text : String) :
    List Warning × Dictionary Nat :=
  match Part.ofText text with
  | .explicit values _ => rebind index offset bound values
  | .interval rule _ =>
    (if rule.isEmpty then [.emptyInterval index offset rule] else [], bound)
  | .plain _ =>
    (if opensLikeRule text.toList then [.malformedRule index offset text] else [], bound)

/-- The warnings for a list of parts that begin at an index and offset and are `gap` bytes
apart. -/
def ofParts (gap : Nat) : Nat → Nat → Dictionary Nat → List String → List Warning
  | _, _, _, [] => []
  | index, offset, bound, text :: rest =>
    let (warnings, bound) := ofPart index offset bound text
    warnings ++ ofParts gap (index + 1) (offset + Text.byteCount text.toList + gap) bound rest

/-- The warnings for a template, in the order of its parts. -/
def ofTemplate (template delimiter : String) : List Warning :=
  ofParts (Text.byteCount delimiter.toList) 0 0 .empty (Text.split delimiter template)

end Lint

end PluralTemplate
