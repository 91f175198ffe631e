import PluralTemplate.CommandLine.Inspect

/-!
# The `categories` command

Lists the plural categories of a locale and classifies numbers. A single text that is not
a number fails the whole command.
-/

set_option autoImplicit false

namespace PluralTemplate.CommandLine

/-- A classified number. -/
structure NumberRow where
  input : String
  category : Plural.Category
  /-- The place of the category in the list of the locale. -/
  index : Nat
  deriving DecidableEq

structure CategoriesArguments where
  locale : String
  numbers : List String
  json : Bool

namespace CategoriesArguments

def usage : Usage where
  switches := [.flag "json"]
  words := ["lang"]
  list := true

def ofGiven (given : Given) : CategoriesArguments where
  locale := given.words.headD ""
  numbers := given.words.drop 1
  json := given.has "json"

/-- The row of a number; a text that is none is the error. -/
def row (classifier : Classifier) (input : String) : Except String NumberRow :=
  match Quantity.parse? input with
  | some q => .ok ⟨input, classifier.detect q, classifier.index q⟩
  | none => .error input

def document (a : CategoriesArguments) (classifier : Classifier) (rows : List NumberRow) :
    Json :=
  .object
    [("locale", .text a.locale),
     ("categories", .list (classifier.categories.map fun c => .text c.name)),
     ("numbers", .list (rows.map fun row => .object
       [("input", .text row.input), ("category", .text row.category.name),
        ("index", .number row.index)]))]

def table (rows : List NumberRow) : Table where
  header := ["Number", "Category", "Index"]
  rows := rows.map fun row => [row.input, row.category.name, toString row.index]

/-- The report for reading. -/
def report (a : CategoriesArguments) (settings : Settings) (classifier : Classifier)
    (rows : List NumberRow) : String :=
  settings.bold a.locale ++ ": "
    ++ String.intercalate ", " (classifier.categories.map Plural.Category.name) ++ "\n"
    ++ if rows.isEmpty then "" else (table rows).text ++ "\n"

def run (a : CategoriesArguments) (settings : Settings) : Outcome :=
  match Registry.standard.classifier a.locale with
  | .error _ => unknownLocale a.locale
  | .ok classifier =>
    match a.numbers.mapM (row classifier) with
    | .error input => ⟨ExitCode.failure, "", "'" ++ input ++ "' is not a number\n"⟩
    | .ok rows =>
      { exitCode := ExitCode.success
        output :=
          if a.json then (a.document classifier rows).pretty ++ "\n"
          else a.report settings classifier rows
        errors := "" }

end CategoriesArguments

end PluralTemplate.CommandLine
