/-!
# Cutting a text at a delimiter

A text is cut at every occurrence of a delimiter, from the left and without overlap.
The recursion is on the text, with a count of the characters still to be skipped after
an occurrence.
-/

set_option autoImplicit false

namespace PluralTemplate.Text

/-- The pieces of a text around a non-empty delimiter, after skipping `skip`
characters. There is always a first piece. -/
def piecesAfter (delimiter : List Char) : Nat → List Char → List (List Char)
  | _, [] => [[]]
  | skip + 1, _ :: rest => piecesAfter delimiter skip rest
  | 0, c :: rest =>
    if delimiter.isPrefixOf (c :: rest) then
      [] :: piecesAfter delimiter (delimiter.length - 1) rest
    else (piecesAfter delimiter 0 rest).modifyHead (c :: ·)

/-- The pieces of a text around a delimiter. An empty delimiter occurs nowhere. -/
def pieces (delimiter text : List Char) : List (List Char) :=
  if delimiter.isEmpty then [text] else piecesAfter delimiter 0 text

theorem piecesAfter_ne_nil (delimiter : List Char) (skip : Nat) (text : List Char) :
    piecesAfter delimiter skip text ≠ [] := by
  induction text generalizing skip with
  | nil => simp [piecesAfter]
  | cons c rest ih =>
    cases skip with
    | succ skip => simpa [piecesAfter] using ih skip
    | zero =>
      unfold piecesAfter
      split
      · simp
      · cases h : piecesAfter delimiter 0 rest with
        | nil => exact absurd h (ih 0)
        | cons p ps => simp

/-- No text is cut into nothing. -/
theorem pieces_ne_nil (delimiter text : List Char) : pieces delimiter text ≠ [] := by
  unfold pieces
  split
  · simp
  · exact piecesAfter_ne_nil delimiter 0 text

/-- The pieces of a text as texts. -/
def split (delimiter text : String) : List String :=
  (pieces delimiter.toList text.toList).map String.ofList

end PluralTemplate.Text
