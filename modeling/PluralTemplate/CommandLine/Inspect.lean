import PluralTemplate.CommandLine.Arguments
import PluralTemplate.CommandLine.Outcome
import PluralTemplate.Handler
import PluralTemplate.Inspection
import PluralTemplate.Json
import PluralTemplate.Suggestion
import PluralTemplate.Table

/-!
# The `inspect` command

Lists the parts of a template and what it binds, and warns about it. The exit code says
whether there were warnings.
-/

set_option autoImplicit false

namespace PluralTemplate.CommandLine

/-- The outcome for a locale without plural rules. -/
def unknownLocale (locale : String) : Outcome where
  exitCode := ExitCode.dataError
  output := ""
  errors := diagnosticText
    (.ofUnknownLocale locale (Suggestion.forLocale locale Registry.standard.supported))

structure InspectArguments where
  template : String
  delimiter : String
  locale : Option String
  json : Bool

namespace InspectArguments

def usage : Usage where
  switches := [.text "delimiter", .text "lang", .flag "json"]
  words := ["template"]
  list := false

def ofGiven (environment : Environment) (given : Given) : InspectArguments where
  template := given.words.headD ""
  delimiter :=
    ((given.value? "delimiter").or (environment.get? "VARIA_DELIMITER")).getD
      Handler.defaultDelimiter
  locale := given.value? "lang"
  json := given.has "json"

def rowJson (row : PartRow) : Json :=
  .object
    [("index", .number row.index), ("kind", .text row.kind), ("rule", .text row.rule),
     ("category", (row.label.map fun label => .text label.text).getD .null),
     ("template", .text row.template)]

def warningJson (warning : Warning) : Json :=
  .object
    ([("kind", .text warning.kind), ("index", .number warning.index),
      ("offset", .number warning.offset)]
      ++ match warning with
        | .malformedRule _ _ text => [("text", .text text)]
        | .emptyInterval _ _ rule => [("rule", .text rule.text)]
        | .duplicateExplicitValue _ _ previous value =>
          [("previous", .number previous), ("value", .text value)])

/-- The report as a document. -/
def document (set : VariantSet) (rows : List PartRow) (warnings : List Warning) : Json :=
  .object
    [("parts", .list (rows.map rowJson)),
     ("explicit", .object (set.explicit.entries.map fun (value, text) => (value, .text text))),
     ("default", .text set.default),
     ("warnings", .list (warnings.map warningJson))]

def table (rows : List PartRow) : Table where
  header := ["#", "Kind", "Rule", "Category", "Template"]
  rows := rows.map fun row =>
    [toString row.index, row.kind, row.rule, (row.label.map PlainLabel.text).getD "",
      row.template]

/-- The bindings of explicit values on a line, if there are any. -/
def bindingsLine (settings : Settings) (set : VariantSet) : String :=
  if set.explicit.entries.isEmpty then ""
  else
    settings.bold "explicit:" ++ " "
      ++ String.intercalate ", "
        (set.explicit.entries.map fun (value, text) => value ++ " => " ++ text)
      ++ "\n"

/-- The report for reading. -/
def report (settings : Settings) (set : VariantSet) (rows : List PartRow) : String :=
  (table rows).text ++ "\n" ++ bindingsLine settings set
    ++ settings.bold "default:" ++ " " ++ set.default ++ "\n"

/-- The outcome for a template whose plain parts stand for these categories. -/
def outcome (a : InspectArguments) (settings : Settings)
    (categories : Option (List Plural.Category)) : Outcome :=
  let parts := VariantSet.parts a.template a.delimiter
  let set := VariantSet.ofParts a.template parts
  let rows := PartRow.rows categories parts
  let warnings := Lint.ofTemplate a.template a.delimiter
  { exitCode := if warnings.isEmpty then ExitCode.success else ExitCode.dataError
    output :=
      if a.json then (document set rows warnings).pretty ++ "\n"
      else report settings set rows
    errors :=
      if a.json then ""
      else String.join (warnings.map fun warning =>
        diagnosticText (.ofWarning a.template a.delimiter warning)) }

def run (a : InspectArguments) (settings : Settings) : Outcome :=
  match a.locale with
  | none => a.outcome settings none
  | some locale =>
    match Registry.standard.classifier locale with
    | .error _ => unknownLocale locale
    | .ok classifier => a.outcome settings (some classifier.categories)

end InspectArguments

end PluralTemplate.CommandLine
