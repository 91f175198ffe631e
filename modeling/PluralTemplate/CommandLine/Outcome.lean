import PluralTemplate.CommandLine.Highlight
import PluralTemplate.CommandLine.Log.Reader
import PluralTemplate.Diagnostic

/-!
# Outcomes of a run

A run of the program is a function of its arguments and environment. Its outcome is an
exit code and what is written to the two output streams.
-/

set_option autoImplicit false

namespace PluralTemplate.CommandLine

structure Outcome where
  exitCode : Nat
  output : String
  errors : String
  deriving DecidableEq, Repr

namespace ExitCode

def success : Nat := 0

/-- The arguments are wrong. -/
def usage : Nat := 2

/-- The data the command is asked about is wrong. -/
def dataError : Nat := 65

/-- The command failed. -/
def failure : Nat := 70

end ExitCode

/-- What holds for all commands: whether text is highlighted, and which messages are
logged. -/
structure Settings where
  highlight : Bool
  log : LogFilter

namespace Settings

/-- A highlighted text, if highlighting is on. -/
def bold (s : Settings) (text : String) : String :=
  if s.highlight then "\x1b[1m" ++ text ++ "\x1b[0m" else text

/-- The log lines for the messages that pass. -/
def logText (s : Settings) (messages : List LogMessage) : String :=
  String.join ((messages.filter s.log.passes).map fun m =>
    m.level.name ++ ": " ++ m.text ++ "\n")

end Settings

/-- A diagnostic as lines of text. -/
def diagnosticText (d : Diagnostic) : String :=
  d.severity ++ " " ++ d.code ++ ": " ++ d.message ++ "\n"
    ++ (d.help.map fun help => "  help: " ++ help ++ "\n").getD ""

end PluralTemplate.CommandLine
