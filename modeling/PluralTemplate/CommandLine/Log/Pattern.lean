/-!
# The form of patterns

The value of a field in a log directive is a pattern: text in which brackets group, bars
separate alternatives, and a star, plus sign or question mark repeats what stands before
it. Only the form is looked at here; no message is ever compared with a pattern.

Patterns know characters and ranges of characters. They know no classes of characters such
as the letters, and cannot overlook the case of a letter.
-/

set_option autoImplicit false

namespace PluralTemplate.CommandLine.Pattern

/-- Where in a set of characters a character stands. -/
inductive SetPlace where
  /-- Behind the opening bracket. -/
  | opened
  /-- Behind the opening bracket and a circumflex. -/
  | negated
  /-- Behind these and dashes, which are members. -/
  | dashes
  /-- Behind a member that begins no range. -/
  | member
  /-- Behind a dash that ends no range. -/
  | dash
  /-- Behind a character that may begin a range. -/
  | low (c : Char)
  /-- Behind such a character and a dash. -/
  | range (c : Char)
  deriving DecidableEq, Repr

/-- Where an escaped character is put: outside of sets, or into the innermost of so many
sets, where it may end a range. -/
inductive Target where
  | outside
  | set (depth : Nat) (low : Option Char)
  deriving DecidableEq, Repr

/-- Where in a pattern a character stands. -/
inductive Place where
  | outside
  /-- Behind a backslash. -/
  | escape (target : Target)
  /-- In a character's code, with so many digits to come and the value of those before. -/
  | code (target : Target) (left value : Nat)
  /-- Behind an opening parenthesis. -/
  | group
  /-- Behind a parenthesis, a question mark and flags, the last of them first. -/
  | flags (given : List Char)
  /-- Behind the letter that introduces the name of a group. -/
  | beforeName
  | name (begun : Bool)
  /-- In the innermost of so many sets. -/
  | set (depth : Nat) (place : SetPlace)
  deriving DecidableEq, Repr

/-- How far a pattern has been read: the place, the groups that are open, and whether
there is something to repeat. -/
structure Progress where
  place : Place
  opened : Nat
  repeatable : Bool
  deriving DecidableEq, Repr

namespace Progress

def start : Progress := ⟨.outside, 0, false⟩

/-- Go on behind something that can be repeated. -/
def behindItem (p : Progress) : Progress := ⟨.outside, p.opened, true⟩

/-- Go on in a group that opens here. -/
def intoGroup (p : Progress) : Progress := ⟨.outside, p.opened + 1, false⟩

/-- Read a character outside of all sets and escapes. -/
def readOutside (p : Progress) (c : Char) : Option Progress :=
  match c with
  | '\\' => some { p with place := .escape .outside }
  | '(' => some { p with place := .group }
  | ')' => if p.opened = 0 then none else some ⟨.outside, p.opened - 1, true⟩
  | '[' => some { p with place := .set 1 .opened }
  | '|' => some ⟨.outside, p.opened, false⟩
  | '*' => if p.repeatable then some p else none
  | '+' => if p.repeatable then some p else none
  | '?' => if p.repeatable then some p else none
  | '\x7b' => none
  | _ => some p.behindItem

/-- Put an escaped character where it belongs. A range does not end before it begins. -/
def put (p : Progress) (target : Target) (c : Char) : Option Progress :=
  match target with
  | .outside => some p.behindItem
  | .set depth none => some { p with place := .set depth (.low c) }
  | .set depth (some low) =>
    if low ≤ c then some { p with place := .set depth .member } else none

/-- How many digits the code of a character has behind a letter. -/
def codeDigits? (c : Char) : Option Nat :=
  match c with
  | 'x' => some 2
  | 'u' => some 4
  | 'U' => some 8
  | _ => none

/-- The control character that a letter stands for. -/
def control? (c : Char) : Option Char :=
  match c with
  | 'a' => some '\x07'
  | 'f' => some '\x0c'
  | 'n' => some '\n'
  | 'r' => some '\r'
  | 't' => some '\t'
  | 'v' => some '\x0b'
  | _ => none

/-- Read a character behind a backslash: a code, a control character, an end of the text,
or an ASCII character that is no letter, no digit and no angle bracket. -/
def readEscape (p : Progress) (target : Target) (c : Char) : Option Progress :=
  match codeDigits? c with
  | some digits => some { p with place := .code target digits 0 }
  | none =>
    match control? c with
    | some control => p.put target control
    | none =>
      if (c = 'A' ∨ c = 'z') ∧ target = .outside then some p.behindItem
      else if c.toNat < 0x80 && !c.isAlphanum && c != '<' && c != '>' then p.put target c
      else none

def hexDigit? (c : Char) : Option Nat :=
  if c.isDigit then some (c.toNat - '0'.toNat)
  else if 'a' ≤ c ∧ c ≤ 'f' then some (c.toNat - 'a'.toNat + 10)
  else if 'A' ≤ c ∧ c ≤ 'F' then some (c.toNat - 'A'.toNat + 10)
  else none

/-- Read a digit of a character's code. The last one completes it. -/
def readCode (p : Progress) (target : Target) (left value : Nat) (c : Char) :
    Option Progress := do
  let digit ← hexDigit? c
  let value := 16 * value + digit
  if 1 < left then some { p with place := .code target (left - 1) value }
  else if value.isValidChar then p.put target (Char.ofNat value)
  else none

/-- Read a character in the flags of a group. Each flag is given once, flags behind a dash
are taken back, and a dash does not come last. -/
def readFlags (p : Progress) (given : List Char) (c : Char) : Option Progress :=
  if c = ':' ∧ given.head? ≠ some '-' then some p.intoGroup
  else if c = ')' ∧ given ≠ [] ∧ given.head? ≠ some '-' then
    some ⟨.outside, p.opened, false⟩
  else if c = '<' ∧ given = [] then some { p with place := .name false }
  else if c = 'P' ∧ given = [] then some { p with place := .beforeName }
  else if c = 'i' ∧ '-' ∉ given then none
  else if c ∈ "imsUuxR-".toList ∧ c ∉ given then
    some { p with place := .flags (c :: given) }
  else none

/-- Read a member of a set, or a bracket. -/
def readMember (p : Progress) (depth : Nat) (c : Char) : Option Progress :=
  match c with
  | '\\' => some { p with place := .escape (.set depth none) }
  | '[' => some { p with place := .set (depth + 1) .opened }
  | ']' =>
    if depth = 1 then some p.behindItem else some { p with place := .set (depth - 1) .member }
  | '-' => some { p with place := .set depth .dash }
  | _ => some { p with place := .set depth (.low c) }

/-- Read a character in a set. A closing bracket that comes first is a member. Two dashes
after each other, two ampersands or two tildes are signs between sets. -/
def readSet (p : Progress) (depth : Nat) (place : SetPlace) (c : Char) : Option Progress :=
  let goOn (place : SetPlace) : Option Progress := some { p with place := .set depth place }
  let opening : Option Progress :=
    if c = '-' then goOn .dashes else if c = ']' then goOn .member else p.readMember depth c
  match place with
  | .opened => if c = '^' then goOn .negated else opening
  | .negated => opening
  | .dashes => if c = '-' then goOn .dashes else p.readMember depth c
  | .member => p.readMember depth c
  | .dash => if c = '-' then goOn .member else p.readMember depth c
  | .low low =>
    if c = '-' then goOn (.range low)
    else if c = low ∧ (c = '&' ∨ c = '~') then goOn .member
    else p.readMember depth c
  | .range low =>
    if c = '-' then goOn .member
    else if c = ']' then p.readMember depth c
    else if c = '\\' then some { p with place := .escape (.set depth (some low)) }
    else p.put (.set depth (some low)) c

/-- Read one character. -/
def read (p : Progress) (c : Char) : Option Progress :=
  match p.place with
  | .outside => p.readOutside c
  | .escape target => p.readEscape target c
  | .code target left value => p.readCode target left value c
  | .group =>
    if c = '?' then some { p with place := .flags [] }
    else p.intoGroup.readOutside c
  | .flags given => p.readFlags given c
  | .beforeName => if c = '<' then some { p with place := .name false } else none
  | .name begun =>
    if c = '>' ∧ begun then some p.intoGroup
    else if c.isAlpha || c == '_' || (begun && c.isDigit) then
      some { p with place := .name true }
    else none
  | .set depth place => p.readSet depth place c

end Progress

/-- Whether a text has the form of a pattern. -/
def isWellFormed (text : List Char) : Bool :=
  match text.foldlM Progress.read Progress.start with
  | some p => p.place == .outside && p.opened == 0
  | none => false

end PluralTemplate.CommandLine.Pattern
