import PluralTemplate.Numeral

/-!
# Log messages

A message has a level, an area of the program, and fields. A filter is a list of
directives: each says for the messages it covers up to which level they are written. A
directive covers the messages of an area that have certain fields, and of the directives
that cover a message the most specific one decides.
-/

set_option autoImplicit false

namespace PluralTemplate.CommandLine

/-- The levels of messages, and below them the level at which nothing is written. -/
inductive LogLevel where
  | off
  | error
  | warn
  | info
  | debug
  | trace
  deriving DecidableEq, Repr

namespace LogLevel

def detail : LogLevel → Nat
  | off => 0
  | error => 1
  | warn => 2
  | info => 3
  | debug => 4
  | trace => 5

def name : LogLevel → String
  | off => "off"
  | error => "error"
  | warn => "warn"
  | info => "info"
  | debug => "debug"
  | trace => "trace"

def all : List LogLevel := [off, error, warn, info, debug, trace]

/-- The number that a text spells: digits, perhaps behind a plus sign. -/
def number? (text : List Char) : Option Nat :=
  let digits := if text.head? = some '+' then text.tail else text
  if Numeral.isDigits digits then some (Numeral.value digits) else none

/-- A level by its name in any letter case, or by its number. -/
def ofText? (text : String) : Option LogLevel :=
  all.find? fun level =>
    level.name.toList == text.toList.map Char.toLower
      || number? text.toList == some level.detail

end LogLevel

structure LogMessage where
  level : LogLevel
  area : String
  text : String
  /-- The names of the values that the message carries beside its text. -/
  fields : List String
  deriving DecidableEq, Repr

/-- Whether a message has a field. Its text is one. -/
def LogMessage.has (m : LogMessage) (field : String) : Bool :=
  field == "message" || m.fields.contains field

/-- Messages of the areas whose names begin like `area`, with all of the given fields, are
written up to a level. Without an area all are covered. -/
structure LogDirective where
  area : Option String
  fields : List String
  level : LogLevel
  deriving DecidableEq, Repr

namespace LogDirective

def covers (d : LogDirective) (m : LogMessage) : Bool :=
  (d.area.elim true fun area => area.toList.isPrefixOf m.area.toList) && d.fields.all m.has

/-- The length of the name of the area, and less than any for none. -/
def reach (d : LogDirective) : Nat := d.area.elim 0 fun area => area.utf8ByteSize + 1

/-- Whether one list of names comes before another in the order of their first difference,
or is its beginning. -/
def namesUpTo : List String → List String → Bool
  | [], _ => true
  | _ :: _, [] => false
  | a :: as, b :: bs => a < b || (a == b && namesUpTo as bs)

/-- Whether a later directive goes before an earlier one that covers the same message: by
the longer name of its area, then by the number of its fields, then by their names. -/
def outranks (later earlier : LogDirective) : Bool :=
  if later.reach = earlier.reach then
    if later.fields.length = earlier.fields.length then namesUpTo earlier.fields later.fields
    else earlier.fields.length < later.fields.length
  else earlier.reach < later.reach

end LogDirective

/-- A filter is a list of directives. -/
abbrev LogFilter := List LogDirective

namespace LogFilter

/-- The directive that decides about a message. -/
def decisive? (filter : LogFilter) (m : LogMessage) : Option LogDirective :=
  (filter.filter (·.covers m)).foldl (fun best d =>
    match best with
    | some found => if d.outranks found then some d else best
    | none => some d) none

def passes (filter : LogFilter) (m : LogMessage) : Bool :=
  m.level.detail ≤ ((filter.decisive? m).elim LogLevel.off LogDirective.level).detail

end LogFilter

end PluralTemplate.CommandLine
