/-!
# Edit distance

The number of characters that must be inserted, removed or replaced to turn one text
into another. It is computed by rows: the row of a text holds its distance to every
beginning of the other text.
-/

set_option autoImplicit false

namespace PluralTemplate.Text

/-- The rest of a row behind `left`, for one more character `c`. `above` holds the rest
of the row before it, from the entry above `left` on. -/
def nextEntries (c : Char) : Nat → List Nat → List Char → List Nat
  | left, diagonal :: above :: rest, d :: target =>
    let entry :=
      min (min (left + 1) (above + 1)) (diagonal + if c = d then 0 else 1)
    entry :: nextEntries c entry (above :: rest) target
  | _, _, _ => []

/-- The row of a text with one more character at its end. -/
def nextRow (target : List Char) (row : List Nat) (c : Char) : List Nat :=
  let first := row.headD 0 + 1
  first :: nextEntries c first row target

/-- The edit distance of two texts. -/
def distance (source target : List Char) : Nat :=
  (source.foldl (nextRow target) (List.range (target.length + 1))).getLastD 0

end PluralTemplate.Text
