import PluralTemplate.Interval

/-!
# Parts of a template

A template is a list of parts. A part is a text with a rule in front that lists values
or gives an interval, or it is a plain text, which stands for a plural category by its
place among the plain parts.
-/

set_option autoImplicit false

namespace PluralTemplate

inductive Part where
  /-- Applies to the quantities with one of these canonical texts. -/
  | explicit (values : List String) (template : String)
  /-- Applies to the quantities in an interval. -/
  | interval (rule : Interval) (template : String)
  /-- Applies to one plural category. -/
  | plain (template : String)
  deriving DecidableEq

namespace Part

/-- The text that the part contributes when it is selected. -/
def template : Part → String
  | explicit _ t => t
  | interval _ t => t
  | plain t => t

def isPlain : Part → Bool
  | plain _ => true
  | _ => false

def kind : Part → String
  | explicit _ _ => "explicit"
  | interval _ _ => "interval"
  | plain _ => "plain"

/-- The rule in front of the text, with its values in canonical form; nothing for a
plain part. -/
def ruleText : Part → String
  | explicit values _ => "\x7b" ++ String.intercalate "," values ++ "\x7d"
  | interval rule _ => rule.text
  | plain _ => ""

end Part

end PluralTemplate
