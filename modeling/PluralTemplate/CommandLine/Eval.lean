import PluralTemplate.CommandLine.Arguments
import PluralTemplate.CommandLine.Assignment
import PluralTemplate.CommandLine.Outcome
import PluralTemplate.Json
import PluralTemplate.Resolver

/-!
# The `eval` command

Resolves one template with the parameters given as arguments.
-/

set_option autoImplicit false

namespace PluralTemplate

/-- The value that an argument stands for: a whole number or a finite number if it spells
one, and a text otherwise. -/
def Value.ofArgument (argument : String) : Value :=
  match Numeral.integer? argument.toList with
  | some n => .number n
  | none =>
    match Numeral.binary64? argument.toList with
    | some x => if x.isFinite then .float x else .text argument
    | none => .text argument

namespace CommandLine

/-- The filters that can be asked for. -/
inductive LetterCase where
  | upper
  | lower
  | capitalize
  deriving DecidableEq, Repr

namespace LetterCase

def ofText? : String → Option LetterCase
  | "upper" => some upper
  | "lower" => some lower
  | "capitalize" => some capitalize
  | _ => none

def filter : LetterCase → Filter
  | upper => Filter.upper
  | lower => Filter.lower
  | capitalize => Filter.capitalize

end LetterCase

structure EvalArguments where
  locale : String
  template : String
  parameters : List (String × String)
  opening : String
  closing : String
  delimiter : String
  trigger : String
  noPlural : Bool
  letterCases : List LetterCase
  replacements : List (String × String)
  json : Bool

namespace EvalArguments

def isAssignment (argument : String) : Bool := (assignment argument).isOk

def usage : Usage where
  switches :=
    [.demanded "lang", .demanded "template", .many "param" (some 'p') isAssignment,
     .text "prefix", .text "suffix", .text "delimiter", .text "trigger", .flag "no-plural",
     .many "filter" none fun value => (LetterCase.ofText? value).isSome,
     .many "replace" none isAssignment, .flag "json"]
  words := []
  list := false

/-- The value of a switch, or else of an environment variable, or else a default. -/
def setting (given : Given) (environment : Environment) (long name default : String) :
    String :=
  ((given.value? long).or (environment.get? name)).getD default

def ofGiven (environment : Environment) (given : Given) : EvalArguments where
  locale := (given.value? "lang").getD ""
  template := (given.value? "template").getD ""
  parameters := (given.values "param").filterMap fun a => (assignment a).toOption
  opening := setting given environment "prefix" "VARIA_PREFIX" Resolver.defaultOpening
  closing := setting given environment "suffix" "VARIA_SUFFIX" Resolver.defaultClosing
  delimiter := setting given environment "delimiter" "VARIA_DELIMITER" Handler.defaultDelimiter
  trigger := (given.value? "trigger").getD Handler.defaultTrigger
  noPlural := given.has "no-plural"
  letterCases := (given.values "filter").filterMap LetterCase.ofText?
  replacements := (given.values "replace").filterMap fun a => (assignment a).toOption
  json := given.has "json"

/-- A handler for one call: nothing is cached. -/
def handler (a : EvalArguments) : Option Handler :=
  if a.noPlural then none
  else some ⟨a.trigger, a.delimiter, .standard, .empty (.items 0)⟩

def resolver (a : EvalArguments) : Resolver :=
  let plain := Resolver.ofAffixes a.opening a.closing a.handler
  let filtered := a.letterCases.foldl (fun r case => r.addFilter case.filter) plain
  a.replacements.foldl (fun r (search, replace) => r.addReplacement search replace) filtered

/-- The parameters by name. The last of one name counts. -/
def values (a : EvalArguments) : Parameters :=
  .ofList (a.parameters.map fun (name, argument) => (name, Value.ofArgument argument))

/-- The message that a selection logs about how it went. -/
def choiceText : Choice → String
  | .explicit _ => "selected explicit variant"
  | .interval rule _ => "selected interval variant " ++ rule.text
  | .plural index _ => "selected plural variant " ++ toString index
  | .default _ => "selected default variant"

/-- The values that this message carries. -/
def choiceFields : Choice → List String
  | .explicit _ => ["quantity"]
  | .interval _ _ => ["quantity", "rule"]
  | .plural _ _ => ["quantity", "index"]
  | .default _ => ["quantity"]

/-- Whether a choice asked for the category of the quantity. -/
def usesCategory : Choice → Bool
  | .explicit _ => false
  | .interval _ _ => false
  | .plural _ _ => true
  | .default _ => true

def parsingArea : String := "varia::interpreter::handler"

def selectionArea : String := "varia::interpreter::selector"

/-- The messages that resolving the template logs. -/
def messages (a : EvalArguments) : List LogMessage :=
  let selection : List LogMessage :=
    match a.handler, a.values.get? a.trigger with
    | some h, some value =>
      let set := VariantSet.ofTemplate a.template a.delimiter
      let parsing : LogMessage := ⟨.trace, parsingArea, "parsing variant template", ["len"]⟩
      match value.quantity? with
      | none => [parsing]
      | some q =>
        let choice := set.choose q a.locale h.registry
        let fallback : List LogMessage :=
          if usesCategory choice && (Registry.rules? a.locale).isNone then
            [⟨.debug, selectionArea, "falling back to the first plural category", ["e"]⟩]
          else []
        parsing :: fallback ++ [⟨.trace, selectionArea, choiceText choice, choiceFields choice⟩]
    | _, _ => []
  ⟨.debug, "varia::commands::eval", "resolving template", ["lang", "params"]⟩ :: selection

/-- The resolved template. -/
def result (a : EvalArguments) : String :=
  (a.resolver.resolve a.template a.values a.locale).1

def run (a : EvalArguments) (settings : Settings) : Outcome where
  exitCode := ExitCode.success
  output :=
    (if a.json then Json.pretty (.object [("result", .text a.result)]) else a.result) ++ "\n"
  errors := settings.logText a.messages

end EvalArguments

end CommandLine

end PluralTemplate
