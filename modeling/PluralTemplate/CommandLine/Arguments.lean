/-!
# Reading arguments

A command takes switches and words. A switch has a long name, may have a letter, and may
take a value, which stands behind an equals sign, directly behind the letter, or in the
next argument. Behind `--` everything is a word. A command may end in a list of words; once
that has begun, everything is one of its words.

Arguments are read from the left, and reading stops at the first that is wrong or asks for
help.
-/

set_option autoImplicit false

namespace PluralTemplate.CommandLine

/-- What a switch does. -/
inductive Action where
  | help
  | version
  /-- Records that the switch is there. -/
  | flag
  /-- Records a value, which must be acceptable. -/
  | value (repeatable : Bool) (accepts : String → Bool)

structure Switch where
  long : String
  letter : Option Char
  action : Action
  required : Bool

namespace Switch

def flag (long : String) : Switch := ⟨long, none, .flag, false⟩

/-- A switch with a value of any form, given at most once. -/
def text (long : String) : Switch := ⟨long, none, .value false fun _ => true, false⟩

/-- A switch with a value that must be given. -/
def demanded (long : String) : Switch := { text long with required := true }

/-- A switch that may be given several times. -/
def many (long : String) (letter : Option Char) (accepts : String → Bool) : Switch :=
  ⟨long, letter, .value true accepts, false⟩

def takesValue (s : Switch) : Bool :=
  match s.action with
  | .value _ _ => true
  | _ => false

def repeatable (s : Switch) : Bool :=
  match s.action with
  | .value repeatable _ => repeatable
  | _ => false

def accepts (s : Switch) (value : String) : Bool :=
  match s.action with
  | .value _ accepts => accepts value
  | _ => true

end Switch

/-- The switches of a command, the names of its words, and whether a list of words follows
those. -/
structure Usage where
  switches : List Switch
  words : List String
  list : Bool

/-- What is wrong with the arguments. -/
inductive Misuse where
  | unexpected (argument : String)
  | valueMissing (switch : String)
  | valueNotTaken (switch : String)
  | valueNotAccepted (switch value : String)
  | repeated (switch : String)
  | missing (name : String)
  | noCommand
  deriving DecidableEq, Repr

def Misuse.message : Misuse → String
  | unexpected argument => "unexpected argument '" ++ argument ++ "'"
  | valueMissing switch => "a value is required for '--" ++ switch ++ "'"
  | valueNotTaken switch => "'--" ++ switch ++ "' takes no value"
  | valueNotAccepted switch value => "invalid value '" ++ value ++ "' for '--" ++ switch ++ "'"
  | repeated switch => "'--" ++ switch ++ "' is given more than once"
  | missing name => "'" ++ name ++ "' is required"
  | noCommand => "a command is required"

/-- Why reading stopped. -/
inductive Stop where
  | help
  | version
  | misuse (misuse : Misuse)
  deriving DecidableEq, Repr

/-- The switches and words that were given, in order. A flag has an empty value. -/
structure Given where
  switches : List (String × String)
  words : List String
  deriving DecidableEq, Repr

namespace Given

def empty : Given := ⟨[], []⟩

def has (given : Given) (long : String) : Bool := given.switches.any (·.1 == long)

def value? (given : Given) (long : String) : Option String := given.switches.lookup long

/-- All values of a switch, in order. -/
def values (given : Given) (long : String) : List String :=
  given.switches.filterMap fun (name, value) => if name == long then some value else none

end Given

/-- The state of reading: what was given so far, the switch whose value comes next, and
whether `--` has been passed. -/
structure Reading where
  given : Given
  awaiting : Option Switch
  literal : Bool

namespace Reading

def start : Reading := ⟨.empty, none, false⟩

/-- Record a switch with its value. -/
def set (r : Reading) (s : Switch) (value : String) : Except Stop Reading :=
  match s.action with
  | .help => .error .help
  | .version => .error .version
  | _ =>
    if !s.repeatable && r.given.has s.long then .error (.misuse (.repeated s.long))
    else if s.accepts value then
      .ok { r with
        given := { r.given with switches := r.given.switches ++ [(s.long, value)] }
        awaiting := none }
    else .error (.misuse (.valueNotAccepted s.long value))

/-- Record a word, if the command takes one more. -/
def word (r : Reading) (u : Usage) (argument : String) : Except Stop Reading :=
  if u.list || r.given.words.length < u.words.length then
    .ok { r with given := { r.given with words := r.given.words ++ [argument] } }
  else .error (.misuse (.unexpected argument))

/-- Whether the next word belongs to the list that ends the command. -/
def atList (r : Reading) (u : Usage) : Bool :=
  u.list && u.words.length ≤ r.given.words.length

/-- Whether that list has begun. -/
def inList (r : Reading) (u : Usage) : Bool :=
  u.list && u.words.length < r.given.words.length

end Reading

namespace Usage

def letter? (u : Usage) (letter : Char) : Option Switch :=
  u.switches.find? (·.letter == some letter)

def long? (u : Usage) (long : String) : Option Switch := u.switches.find? (·.long == long)

/-- Read `--name` or `--name=value`, given without the hyphens. A name that no switch has
is a word where a list of words can begin. -/
def readLong (u : Usage) (r : Reading) (argument : String) (body : List Char) :
    Except Stop Reading :=
  let name := String.ofList (body.takeWhile (· != '='))
  match u.long? name, body.dropWhile (· != '=') with
  | some s, [] => if s.takesValue then .ok { r with awaiting := some s } else r.set s ""
  | some s, _ :: value =>
    if s.takesValue then r.set s (String.ofList value)
    else .error (.misuse (.valueNotTaken name))
  | none, _ =>
    if r.atList u then r.word u argument else .error (.misuse (.unexpected argument))

/-- Read the letters of an argument. The first that takes a value has the rest of the
argument for it, or the next argument if nothing is left. -/
def readLetters (u : Usage) (argument : String) : Reading → List Char → Except Stop Reading
  | r, [] => .ok r
  | r, c :: rest =>
    match u.letter? c with
    | none => .error (.misuse (.unexpected argument))
    | some s =>
      if s.takesValue then
        if rest.isEmpty then .ok { r with awaiting := some s }
        else r.set s (String.ofList (if rest.head? = some '=' then rest.tail else rest))
      else do u.readLetters argument (← r.set s "") rest

/-- Read one argument. -/
def read (u : Usage) (r : Reading) (argument : String) : Except Stop Reading :=
  if r.literal then r.word u argument
  else
    match r.awaiting, argument.toList with
    | some s, '-' :: _ :: _ => .error (.misuse (.valueMissing s.long))
    | some s, _ => r.set s argument
    | none, text =>
      if r.inList u then r.word u argument
      else
        match text with
        | ['-', '-'] => .ok { r with literal := true }
        | '-' :: '-' :: body => u.readLong r argument body
        | '-' :: c :: rest =>
          if r.atList u && (c :: rest).any fun c => (u.letter? c).isNone then r.word u argument
          else u.readLetters argument r (c :: rest)
        | _ => r.word u argument

/-- What was given, if nothing that is required is missing. -/
def finish (u : Usage) (r : Reading) : Except Stop Given :=
  match r.awaiting, u.switches.find? (fun s => s.required && !r.given.has s.long),
      u.words[r.given.words.length]? with
  | some s, _, _ => .error (.misuse (.valueMissing s.long))
  | none, some s, _ => .error (.misuse (.missing ("--" ++ s.long)))
  | none, none, some name => .error (.misuse (.missing name))
  | none, none, none => .ok r.given

/-- Read all arguments of a command. -/
def readAll (u : Usage) (arguments : List String) : Except Stop Given := do
  u.finish (← arguments.foldlM u.read .start)

/-- Read arguments up to the name of a command. Gives what stands before the name, the
name, and the arguments behind it. -/
def readToCommand (u : Usage) (commands : List String) :
    Reading → List String → Except Stop (Given × String × List String)
  | r, [] => do
    let _ ← u.finish r
    .error (.misuse .noCommand)
  | r, argument :: rest =>
    if r.awaiting.isNone && !r.literal && commands.contains argument then
      .ok (r.given, argument, rest)
    else do u.readToCommand commands (← u.read r argument) rest

end Usage

end PluralTemplate.CommandLine
