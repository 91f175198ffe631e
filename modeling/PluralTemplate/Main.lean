import PluralTemplate.CommandLine

/-!
# The program

Hands the arguments and the environment to the command line and writes what it answers.
-/

set_option autoImplicit false

namespace PluralTemplate.Program

/-- The environment variables that matter to a run. -/
def variableNames : List String :=
  ["VARIA_PREFIX", "VARIA_SUFFIX", "VARIA_DELIMITER", "RUST_LOG"]
    ++ CommandLine.Environment.colorVariables

/-- The variables that are set, with their values. -/
def environment : IO CommandLine.Environment := do
  let entries ← variableNames.mapM fun name => do
    return (← IO.getEnv name).map fun value => (name, value)
  return .ofList (entries.filterMap id)

end PluralTemplate.Program

def main (arguments : List String) : IO UInt32 := do
  let outcome := PluralTemplate.CommandLine.run arguments (← PluralTemplate.Program.environment)
  (← IO.getStdout).putStr outcome.output
  (← IO.getStderr).putStr outcome.errors
  return UInt32.ofNat outcome.exitCode
