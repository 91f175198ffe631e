/-!
# Writing JSON

Documents are written with two spaces of indentation, one member or item a line, and with
members in the order given. Text is written raw, apart from quotes, backslashes and
controls.
-/

set_option autoImplicit false

namespace PluralTemplate

inductive Json where
  | null
  | number (n : Nat)
  | text (s : String)
  | list (items : List Json)
  | object (members : List (String × Json))

namespace Json

/-- Controls that have a short escape, with its letter. -/
def shortEscapes : List (Char × Char) :=
  [('"', '"'), ('\\', '\\'), ('\x08', 'b'), ('\x0c', 'f'), ('\n', 'n'), ('\r', 'r'), ('\t', 't')]

/-- A character inside a quoted text. -/
def escaped (c : Char) : List Char :=
  match shortEscapes.lookup c with
  | some letter => ['\\', letter]
  | none =>
    if c.toNat < 0x20 then
      "\\u00".toList ++ [Nat.digitChar (c.toNat / 16), Nat.digitChar (c.toNat % 16)]
    else [c]

def quoted (s : String) : String := String.ofList ('"' :: s.toList.flatMap escaped ++ ['"'])

/-- The spaces in front of a line. -/
def margin (depth : Nat) : String := String.ofList (List.replicate (2 * depth) ' ')

/-- Lines between two brackets, one step further in than the brackets. No lines leave the
brackets together. -/
def bracketed (depth : Nat) (opening closing : String) (lines : List String) : String :=
  if lines.isEmpty then opening ++ closing
  else
    opening ++ "\n" ++ String.intercalate ",\n" (lines.map (margin (depth + 1) ++ ·)) ++ "\n"
      ++ margin depth ++ closing

mutual

/-- The text of a document at a depth of indentation. -/
def write (depth : Nat) : Json → String
  | null => "null"
  | number n => toString n
  | text s => quoted s
  | list items => bracketed depth "[" "]" (writeItems (depth + 1) items)
  | object members => bracketed depth "\x7b" "\x7d" (writeMembers (depth + 1) members)

def writeItems (depth : Nat) : List Json → List String
  | [] => []
  | item :: rest => write depth item :: writeItems depth rest

def writeMembers (depth : Nat) : List (String × Json) → List String
  | [] => []
  | (name, value) :: rest =>
    (quoted name ++ ": " ++ write depth value) :: writeMembers depth rest

end

/-- The text of a document. -/
def pretty (document : Json) : String := document.write 0

end Json

end PluralTemplate
