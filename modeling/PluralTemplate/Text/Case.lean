import PluralTemplate.Text.Case.Data

/-!
# Letter case

A text is put in upper or lower case character by character. One character may become
several. The one mapping that depends on context is that of the capital sigma, which has
a lower-case form of its own at the end of a word.
-/

set_option autoImplicit false

namespace PluralTemplate.Text.Case

/-- The image of a code point under the first run that holds it. -/
def image? (runs : List Run) (n : Nat) : Option Nat :=
  runs.findSome? fun r =>
    if r.first ≤ n ∧ n ≤ r.last ∧ (n - r.first) % r.step = 0 then
      some (r.image + (n - r.first))
    else none

/-- A character mapped by a list of expansions and runs. A character that is in neither
stays as it is. -/
def mapped (expansions : List (Nat × List Nat)) (runs : List Run) (c : Char) : List Char :=
  match expansions.lookup c.toNat with
  | some images => images.map Char.ofNat
  | none =>
    match image? runs c.toNat with
    | some n => [Char.ofNat n]
    | none => [c]

def upperOf (c : Char) : List Char := mapped upperExpansions upperRuns c

/-- The lower case of a character outside any context. -/
def lowerOf (c : Char) : List Char := mapped lowerExpansions lowerRuns c

/-- A text in upper case. -/
def upper (text : List Char) : List Char := text.flatMap upperOf

def isCased (c : Char) : Bool := casedRanges.contain c.toNat

def isIgnorable (c : Char) : Bool := ignorableRanges.contain c.toNat

/-- Whether the first character that is not looked past is a letter with case. -/
def meetsCased (text : List Char) : Bool :=
  ((text.dropWhile isIgnorable).head?.map isCased).getD false

/-- A sigma ends a word if it comes behind a letter and no letter comes behind it. What
comes before it is given backwards. -/
def endsWord (before after : List Char) : Bool := meetsCased before && !meetsCased after

/-- The lower case of a text that stands behind `before`, which is given backwards. -/
def lowerAfter : List Char → List Char → List Char
  | _, [] => []
  | before, c :: rest =>
    (if c = 'Σ' then [if endsWord before rest then 'ς' else 'σ'] else lowerOf c)
      ++ lowerAfter (c :: before) rest

/-- A text in lower case. -/
def lower (text : List Char) : List Char := lowerAfter [] text

end PluralTemplate.Text.Case
