import PluralTemplate.Text.Split
import PluralTemplate.Text.Width

/-!
# Tables

A table has a frame and a rule under its header, and nothing between its rows or columns
but space. A column is as wide as the widest line in it; a cell with line feeds takes
several lines, and its neighbours are filled up with blank ones.
-/

set_option autoImplicit false

namespace PluralTemplate

structure Table where
  header : List String
  rows : List (List String)

namespace Table

/-- The lines of a cell. -/
def cellLines (cell : String) : List (List Char) := Text.pieces ['\n'] cell.toList

/-- The columns of the terminal that a cell takes up. -/
def cellWidth (cell : String) : Nat :=
  (cellLines cell).foldl (fun widest line => max widest (Text.Width.ofLine line)) 0

/-- The width of each column of the table. -/
def widths (t : Table) : List Nat :=
  t.rows.foldl (fun widest row => widest.zipWith max (row.map cellWidth))
    (t.header.map cellWidth)

/-- A line of a cell, filled up to the width of its column and with a space on either
side. -/
def padded (width : Nat) (line : List Char) : String :=
  " " ++ String.ofList (line ++ List.replicate (width - Text.Width.ofLine line) ' ') ++ " "

/-- The lines of a row. -/
def rowLines (widths : List Nat) (row : List String) : List String :=
  let cells := row.map cellLines
  let height := cells.foldl (fun tallest lines => max tallest lines.length) 0
  (List.range height).map fun i =>
    "│" ++ String.intercalate " "
      (widths.zipWith (fun width lines => padded width (lines[i]?.getD [])) cells) ++ "│"

/-- A horizontal line of the frame. -/
def frameLine (widths : List Nat) (left middle right : Char) : String :=
  let length := widths.foldr (fun width sum => width + 2 + sum) (widths.length - 1)
  String.ofList (left :: List.replicate length middle ++ [right])

/-- The text of a table. -/
def text (t : Table) : String :=
  let widths := t.widths
  String.intercalate "\n"
    ([frameLine widths '┌' '─' '┐'] ++ rowLines widths t.header
      ++ [frameLine widths '╞' '═' '╡'] ++ t.rows.flatMap (rowLines widths)
      ++ [frameLine widths '└' '─' '┘'])

end Table

end PluralTemplate
