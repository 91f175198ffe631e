import PluralTemplate.CommandLine.Categories
import PluralTemplate.CommandLine.Eval

/-!
# The command line

The program has three commands, and switches for highlighting and logging that can stand
before or behind the name of a command. Behind it they count more.
-/

set_option autoImplicit false

namespace PluralTemplate.CommandLine

def versionLine : String := "varia 0.1.0\n"

def helpText : String :=
  "Plural variant template tools\n\n"
    ++ "Usage: varia [--color auto|always|never] [-v] COMMAND\n\n"
    ++ "  eval --lang LOCALE --template TEXT [-p NAME=VALUE]...\n"
    ++ "  inspect TEMPLATE [--lang LOCALE]\n"
    ++ "  categories LOCALE [NUMBER]...\n"

/-- When text is highlighted. -/
inductive ColorChoice where
  | auto
  | always
  | never
  deriving DecidableEq, Repr

def ColorChoice.ofText? : String → Option ColorChoice
  | "auto" => some auto
  | "always" => some always
  | "never" => some never
  | _ => none

/-- The switches that every command has. -/
def commonSwitches : List Switch :=
  [⟨"color", none, .value false fun value => (ColorChoice.ofText? value).isSome, false⟩,
   ⟨"verbose", some 'v', .flag, false⟩, ⟨"help", some 'h', .help, false⟩]

/-- The switches that stand before the name of a command. -/
def programUsage : Usage where
  switches := ⟨"version", some 'V', .version, false⟩ :: commonSwitches
  words := []
  list := false

def withCommon (u : Usage) : Usage := { u with switches := u.switches ++ commonSwitches }

/-- The names of the commands, and of the request for help about them. -/
def commandNames : List String := ["eval", "inspect", "categories", "help"]

/-- Highlighting as chosen, and otherwise as the environment asks for it. -/
def highlight (environment : Environment) (choice : Option String) : Bool :=
  match choice.bind ColorChoice.ofText? with
  | some .always => true
  | some .never => false
  | _ => environment.wantsColor

/-- The log filter of the environment, if it has one that can be read, and otherwise
warnings, or more if asked. -/
def logFilter (environment : Environment) (verbose : Bool) : LogFilter :=
  ((environment.get? "RUST_LOG").bind LogFilter.parse?).getD
    [⟨none, [], if verbose then .debug else .warn⟩]

def settings (environment : Environment) (before behind : Given) : Settings where
  highlight := highlight environment ((behind.value? "color").or (before.value? "color"))
  log := logFilter environment (before.has "verbose" || behind.has "verbose")

/-- Read the arguments of a command and run it. -/
def runCommand (environment : Environment) (before : Given) (u : Usage)
    (arguments : List String) (run : Given → Settings → Outcome) : Except Stop Outcome := do
  let given ← (withCommon u).readAll arguments
  return run given (settings environment before given)

/-- The outcome, unless the arguments ask for something else or are wrong. -/
def outcome (arguments : List String) (environment : Environment) : Except Stop Outcome := do
  let (before, name, rest) ← programUsage.readToCommand commandNames .start arguments
  match name with
  | "eval" =>
    runCommand environment before EvalArguments.usage rest fun given =>
      (EvalArguments.ofGiven environment given).run
  | "inspect" =>
    runCommand environment before InspectArguments.usage rest fun given =>
      (InspectArguments.ofGiven environment given).run
  | "categories" =>
    runCommand environment before CategoriesArguments.usage rest fun given =>
      (CategoriesArguments.ofGiven given).run
  | _ =>
    match rest with
    | [] => .error .help
    | [topic] =>
      .error (if commandNames.contains topic then .help else .misuse (.unexpected topic))
    | _ :: extra :: _ => .error (.misuse (.unexpected extra))

/-- Run the program. -/
def run (arguments : List String) (environment : Environment) : Outcome :=
  match outcome arguments environment with
  | .ok result => result
  | .error .help => ⟨ExitCode.success, helpText, ""⟩
  | .error .version => ⟨ExitCode.success, versionLine, ""⟩
  | .error (.misuse misuse) => ⟨ExitCode.usage, "", "error: " ++ misuse.message ++ "\n"⟩

end PluralTemplate.CommandLine
