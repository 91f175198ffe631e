import PluralTemplate.CommandLine.Log
import PluralTemplate.CommandLine.Log.Pattern
import PluralTemplate.Text.Alphanumeric
import PluralTemplate.Text.Blank
import PluralTemplate.Text.Split

/-!
# Reading log filters

A filter is spelled as directives between commas. A directive is a level such as `debug`,
or an area such as `varia::commands`, or both as in `varia=info`. Behind the area there may
stand, in brackets, the name of a span and a field in braces, which may have a value.

The program opens no spans and keeps no values, so a directive that asks for one of them
is read and then covers nothing.
-/

set_option autoImplicit false

namespace PluralTemplate.CommandLine

/-- A directive as it is spelled. -/
structure SpelledDirective where
  area : Option String
  span : Option String
  /-- Fields with the values that are asked for. -/
  fields : List (String × Option String)
  level : LogLevel
  deriving DecidableEq, Repr

namespace SpelledDirective

/-- What the directive says about messages, unless it asks for a span or a value. -/
def onMessages? (d : SpelledDirective) : Option LogDirective :=
  if d.span.isNone && d.fields.all (fun field => field.2.isNone) then
    some ⟨d.area, d.fields.map Prod.fst, d.level⟩
  else none

/-- The text of a directive, character by character: the one that is read, and the one
that is taken into a name. They differ only if white space stands in front, which is not
read. -/
abbrev Marks := List (Char × Char)

def taken (marks : Marks) : String := String.ofList (marks.map Prod.snd)

/-- What stands before the first character of a class, and the rest from there on. -/
def cut (p : Char → Bool) (marks : Marks) : Marks × Marks :=
  (marks.takeWhile (!p ·.1), marks.dropWhile (!p ·.1))

/-- A level behind an equals sign; all levels if nothing stands there. -/
def level? (text : String) : Option LogLevel :=
  if text.isEmpty then some .trace else LogLevel.ofText? text

/-- A field, and behind an equals sign its value, which is a number or a pattern. -/
def field? (text : String) : Option (String × Option String) :=
  if text.isEmpty then none
  else
    match Text.pieces ['='] text.toList with
    | name :: value :: _ =>
      if (Numeral.binary64? value).isSome || Pattern.isWellFormed value then
        some (String.ofList name, some (String.ofList value))
      else none
    | _ => some (text, none)

/-- What may stand behind the brackets. `tail` is white space that is not read but
taken. -/
def behindBrackets? (d : SpelledDirective) (tail : List Char) (marks : Marks) :
    Option SpelledDirective :=
  match marks with
  | [] => some d
  | (c, _) :: rest =>
    if c = '=' then
      (level? (taken rest ++ String.ofList tail)).map fun level => { d with level }
    else none

/-- The brackets of a directive, read behind the opening one. -/
def brackets? (area : Option String) (tail : List Char) (marks : Marks) :
    Option SpelledDirective :=
  let (name, rest) := cut (fun c => c == ']' || c == '\x7b') marks
  match rest with
  | [] => none
  | (']', _) :: rest => behindBrackets? ⟨area, some (taken name), [], .trace⟩ tail rest
  | _ :: rest =>
    let (inside, rest) := cut (· == '\x7d') rest
    match rest.dropWhile (·.1 == '\x7d') with
    | (']', _) :: behind => do
      let field ← field? (taken inside)
      behindBrackets?
        ⟨area, if name.isEmpty then none else some (taken name), [field], .trace⟩ tail behind
    | _ => none

/-- The characters that a directive without brackets in front can begin with. -/
def opensName (c : Char) : Bool :=
  Text.isAlphanumeric c || c == '-' || c == ':' || c == '_'

def ofText? (text : String) : Option SpelledDirective :=
  let given := text.toList
  let seen := Text.strip Text.isWhiteSpace given
  let tail := given.drop seen.length
  match seen.zip given with
  | [] => none
  | (first, mark) :: rest =>
    if first = '[' then brackets? none tail rest
    else if opensName first then
      let (name, rest) := cut (fun c => c == '=' || c == '[') ((first, mark) :: rest)
      match rest with
      | [] =>
        let whole := taken name ++ String.ofList tail
        match LogLevel.ofText? whole with
        | some level => some ⟨none, none, [], level⟩
        | none => some ⟨some whole, none, [], .trace⟩
      | (c, _) :: behind =>
        if c = '[' then brackets? (some (taken name)) tail behind
        else (level? (taken behind ++ String.ofList tail)).map (⟨some (taken name), none, [], ·⟩)
    else none

end SpelledDirective

/-- The filter that a text spells. An empty one lets errors pass. -/
def LogFilter.parse? (text : String) : Option LogFilter := do
  let directives ←
    ((Text.split "," text).filter (fun piece => !piece.isEmpty)).mapM SpelledDirective.ofText?
  return if directives.isEmpty then [⟨none, [], .error⟩]
    else directives.filterMap SpelledDirective.onMessages?

end PluralTemplate.CommandLine
