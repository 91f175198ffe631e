/-!
# Assignments

An argument of the form `name=value` is cut at its first equals sign.
-/

set_option autoImplicit false

namespace PluralTemplate.CommandLine

inductive AssignmentError where
  | noEquals (argument : String)
  deriving DecidableEq, Repr

def AssignmentError.message : AssignmentError → String
  | noEquals argument => "invalid format '" ++ argument ++ "': expected name=value"

/-- The name and the value of an assignment. Either may be empty. -/
def assignment (argument : String) : Except AssignmentError (String × String) :=
  match argument.toList.dropWhile (· != '=') with
  | [] => .error (.noEquals argument)
  | _ :: value =>
    .ok (String.ofList (argument.toList.takeWhile (· != '=')), String.ofList value)

end PluralTemplate.CommandLine
