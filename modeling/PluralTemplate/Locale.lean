import PluralTemplate.Plural.Languages

/-!
# Locales and where their plural rules come from

A locale is a text such as `pt_BR` or `sr-Latn-RS`. A registry gives for a locale the
categories it tells apart and how it classifies a quantity, or says that it does not
know the locale. The standard registry looks at the language subtag only.
-/

set_option autoImplicit false

namespace PluralTemplate

namespace Locale

/-- The language subtag: what stands before the first hyphen or underscore. -/
def primarySubtag (locale : String) : String :=
  String.ofList (locale.toList.takeWhile fun c => c != '-' && c != '_')

/-- Equality that takes no notice of the case of ASCII letters. -/
def sameLetters (a b : String) : Bool :=
  a.toList.map Char.toLower == b.toList.map Char.toLower

inductive Error where
  | notSupported (locale : String)
  deriving DecidableEq, Repr

def Error.message : Error → String
  | notSupported locale => "locale not supported: '" ++ locale ++ "'"

end Locale

/-- How one locale classifies quantities. Plain variants are matched to categories by
place in the list. -/
structure Classifier where
  categories : List Plural.Category
  detect : Quantity → Plural.Category

/-- A source of classifiers. -/
structure Registry where
  classifier : String → Except Locale.Error Classifier
  /-- The locales the source advertises, for suggestions. -/
  supported : List String

namespace Classifier

def ofRules (rules : Plural.Rules) : Classifier := ⟨rules.categories, rules.detect⟩

/-- The place of a quantity's category among the categories; the first place if it is
not one of them. -/
def index (c : Classifier) (q : Quantity) : Nat :=
  (c.categories.findIdx? (· == c.detect q)).getD 0

end Classifier

namespace Registry

/-- The rules of the language of a locale. -/
def rules? (locale : String) : Option Plural.Rules :=
  (Plural.languages.find? fun entry =>
    Locale.sameLetters entry.1 (Locale.primarySubtag locale)).map Prod.snd

/-- The standard registry. -/
def standard : Registry where
  classifier locale :=
    match rules? locale with
    | some rules => .ok (.ofRules rules)
    | none => .error (.notSupported locale)
  supported := Plural.languages.map Prod.fst

end Registry

end PluralTemplate
