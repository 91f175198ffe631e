import Mathlib.Data.List.Forall2
import PluralTemplate.Table
import PluralTemplate.Proofs.Text.Cut

/-!
# What a table looks like

`Drawn` says how a header and rows stand in a frame: a block of lines for each row, in order, and
in a block the cells from left to right. A cell takes as many lines as it has itself, and all
pieces of a column are filled up to one width. The text of a table whose rows are as long as its
header is drawn so (`drawn_text`).
-/

set_option autoImplicit false

namespace PluralTemplate.Table

/-- A line across the columns. A column is given by its width and by the piece of its cell that
belongs on the line; the piece is filled up with spaces to the width. -/
def DrawnLine (columns : List (Nat × List Char)) (line : String) : Prop :=
  ∃ drawn : List String,
    List.Forall₂
      (fun column text => ∃ fill, Text.Width.ofLine column.2 + fill = column.1 ∧
        text = " " ++ String.ofList (column.2 ++ List.replicate fill ' ') ++ " ")
      columns drawn ∧
    line = "│" ++ String.intercalate " " drawn ++ "│"

/-- The lines of a row. The lines of each cell are drawn in its column from the top, and there are
as many as the cell that has most of them takes. -/
def DrawnRow (widths : List Nat) (row : List String) (lines : List String) : Prop :=
  ∃ cells : List (List (List Char)),
    widths.length = row.length ∧
    List.Forall₂ (fun cell pieces => Text.Cut ['\n'] cell.toList pieces) row cells ∧
    (∀ k, k < lines.length ↔ ∃ pieces ∈ cells, k < pieces.length) ∧
    ∀ (k : Nat) (line : String), lines[k]? = some line →
      DrawnLine (widths.zip (cells.map fun pieces => pieces[k]?.getD [])) line

/-- A horizontal line, with a column and the space between two columns as wide as in the rows. -/
def border (widths : List Nat) (left middle right : Char) : String :=
  String.ofList
    (left :: [middle].intercalate (widths.map fun width => List.replicate (width + 2) middle)
      ++ [right])

/-- A header and rows in a frame, with a rule between them. -/
def Drawn (header : List String) (rows : List (List String)) (text : String) : Prop :=
  ∃ (widths : List Nat) (head : List String) (blocks : List (List String)),
    DrawnRow widths header head ∧
    List.Forall₂ (DrawnRow widths) rows blocks ∧
    text = String.intercalate "\n"
      ([border widths '┌' '─' '┐'] ++ head ++ [border widths '╞' '═' '╡'] ++ blocks.flatten
        ++ [border widths '└' '─' '┘'])

/-! ## The width of a column -/

/-- The greatest value is the least bound of the values. -/
theorem foldl_max_le_iff {α : Type} {f : α → Nat} {l : List α} {start k : Nat} :
    l.foldl (fun greatest x => max greatest (f x)) start ≤ k ↔ start ≤ k ∧ ∀ x ∈ l, f x ≤ k := by
  induction l generalizing start with
  | nil => simp
  | cons x rest ih =>
    rw [List.foldl_cons, ih, Nat.max_le, List.forall_mem_cons, and_assoc]

theorem ofLine_le_cellWidth {cell : String} {line : List Char} (member : line ∈ cellLines cell) :
    Text.Width.ofLine line ≤ cellWidth cell :=
  (foldl_max_le_iff.1 (Nat.le_refl (cellWidth cell))).2 line member

/-- Each cell of a row has room in its column. -/
def Fits (widths : List Nat) (row : List String) : Prop :=
  List.Forall₂ (fun width cell => cellWidth cell ≤ width) widths row

/-- The columns, wide enough for one more row. -/
def widen (widths : List Nat) (row : List String) : List Nat :=
  widths.zipWith max (row.map cellWidth)

theorem length_widen {widths : List Nat} {row : List String} (even : row.length = widths.length) :
    (widen widths row).length = widths.length := by
  rw [widen, List.length_zipWith, List.length_map, even, Nat.min_self]

theorem fits_widen {widths : List Nat} {row : List String} (even : row.length = widths.length) :
    Fits (widen widths row) row := by
  induction widths generalizing row with
  | nil =>
    rw [List.length_eq_zero_iff.1 even]
    exact .nil
  | cons width widths ih =>
    cases row with
    | nil => cases even
    | cons cell rest => exact .cons (Nat.le_max_right _ _) (ih (Nat.succ.inj even))

/-- A row that has room keeps it. -/
theorem Fits.widen {widths : List Nat} {row : List String} (fits : Fits widths row)
    {other : List String} (even : other.length = widths.length) :
    Fits (widen widths other) row := by
  unfold Fits at fits
  induction fits generalizing other with
  | nil => exact .nil
  | cons room _ ih =>
    cases other with
    | nil => cases even
    | cons cell rest =>
      exact .cons (Nat.le_trans room (Nat.le_max_left _ _)) (ih (Nat.succ.inj even))

theorem fits_foldl_widen {rows : List (List String)} {widths : List Nat}
    (even : ∀ row ∈ rows, row.length = widths.length) :
    (∀ row, Fits widths row → Fits (rows.foldl Table.widen widths) row) ∧
      ∀ row ∈ rows, Fits (rows.foldl Table.widen widths) row := by
  induction rows generalizing widths with
  | nil => exact ⟨fun _ fits => fits, List.forall_mem_nil _⟩
  | cons first rest ih =>
    obtain ⟨firstEven, restEven⟩ := List.forall_mem_cons.1 even
    obtain ⟨kept, fitting⟩ := ih fun row member =>
      (restEven row member).trans (length_widen firstEven).symm
    constructor
    · exact fun row fits => kept row (fits.widen firstEven)
    · exact List.forall_mem_cons.2 ⟨kept first (fits_widen firstEven), fitting⟩

/-- The columns of a table are wide enough for everything in it. -/
theorem fits_widths {t : Table} (even : ∀ row ∈ t.rows, row.length = t.header.length) :
    Fits t.widths t.header ∧ ∀ row ∈ t.rows, Fits t.widths row := by
  have start : Fits (t.header.map cellWidth) t.header := by
    rw [Fits, List.forall₂_map_left_iff, List.forall₂_same]
    exact fun cell _ => Nat.le_refl _
  have same : ∀ row ∈ t.rows, row.length = (t.header.map cellWidth).length := by
    simpa using even
  obtain ⟨kept, fitting⟩ := fits_foldl_widen same
  exact ⟨kept _ start, fitting⟩

/-! ## Lines -/

theorem drawnLine_padded {widths : List Nat} {pieces : List (List Char)}
    (room : ∀ column ∈ widths.zip pieces, Text.Width.ofLine column.2 ≤ column.1) :
    DrawnLine (widths.zip pieces)
      ("│" ++ String.intercalate " " (widths.zipWith padded pieces) ++ "│") := by
  have columns : widths.zipWith padded pieces =
      (widths.zip pieces).map fun column => padded column.1 column.2 := by
    rw [List.zip_eq_zipWith, List.map_zipWith]
  refine ⟨_, ?_, rfl⟩
  rw [columns, List.forall₂_map_right_iff, List.forall₂_same]
  intro column member
  exact ⟨column.1 - Text.Width.ofLine column.2, Nat.add_sub_of_le (room column member), rfl⟩

/-- A cell has room for each of its lines, and for none. -/
theorem Fits.room {widths : List Nat} {row : List String} (fits : Fits widths row) (k : Nat) :
    ∀ column ∈ widths.zip ((row.map cellLines).map fun pieces => pieces[k]?.getD []),
      Text.Width.ofLine column.2 ≤ column.1 := by
  unfold Fits at fits
  induction fits with
  | nil => exact List.forall_mem_nil _
  | @cons width cell widths row room _ ih =>
    refine List.forall_mem_cons.2 ⟨?_, ih⟩
    change Text.Width.ofLine ((cellLines cell)[k]?.getD []) ≤ width
    cases found : (cellLines cell)[k]? with
    | none => exact Nat.zero_le width
    | some piece => exact Nat.le_trans (ofLine_le_cellWidth (List.mem_of_getElem? found)) room

theorem drawnRow_rowLines {widths : List Nat} {row : List String} (fits : Fits widths row) :
    DrawnRow widths row (rowLines widths row) := by
  refine ⟨row.map cellLines, List.Forall₂.length_eq fits, ?_, fun k => ?_, fun k line here => ?_⟩
  · rw [List.forall₂_map_right_iff, List.forall₂_same]
    exact fun cell _ => Text.cut_pieces ['\n'] cell.toList
  · rw [rowLines, List.length_map, List.length_range, ← Nat.not_le, foldl_max_le_iff]
    simp
  · rw [rowLines, List.getElem?_map, Option.map_eq_some_iff] at here
    obtain ⟨i, found, rfl⟩ := here
    obtain rfl : k = i := by
      obtain ⟨_, same⟩ := List.getElem?_eq_some_iff.1 found
      rwa [List.getElem_range] at same
    have drawn := drawnLine_padded (fits.room k)
    rwa [List.zipWith_map_right] at drawn

/-! ## The frame -/

/-- How wide the columns are together, with a space on either side of each and `gaps` between. -/
def span (widths : List Nat) (gaps : Nat) : Nat :=
  widths.foldr (fun width sum => width + 2 + sum) gaps

theorem span_cons (width : Nat) (widths : List Nat) (gaps : Nat) :
    span (width :: widths) gaps = width + 2 + span widths gaps := rfl

theorem span_succ (widths : List Nat) (gaps : Nat) :
    span widths (gaps + 1) = span widths gaps + 1 := by
  induction widths with
  | nil => rfl
  | cons width widths ih => rw [span_cons, span_cons, ih, ← Nat.add_assoc]

theorem intercalate_replicate (width : Nat) (widths : List Nat) (middle : Char) :
    [middle].intercalate ((width :: widths).map fun width => List.replicate (width + 2) middle) =
      List.replicate (span (width :: widths) widths.length) middle := by
  induction widths generalizing width with
  | nil => exact List.intercalate_singleton
  | cons next rest ih =>
    have rows := ih next
    rw [List.map_cons] at rows
    rw [List.map_cons, List.map_cons, List.intercalate_cons_cons, rows, ← List.replicate_one,
      List.replicate_append_replicate, List.replicate_append_replicate, span_cons width,
      List.length_cons, span_succ, Nat.add_right_comm, Nat.add_assoc (width + 2)]

theorem frameLine_eq_border (widths : List Nat) (left middle right : Char) :
    frameLine widths left middle right = border widths left middle right := by
  cases widths with
  | nil => rfl
  | cons width widths =>
    rw [border, intercalate_replicate]
    rfl

/-- The text of a table shows its header and its rows. -/
theorem drawn_text {t : Table} (even : ∀ row ∈ t.rows, row.length = t.header.length) :
    Drawn t.header t.rows t.text := by
  obtain ⟨head, rows⟩ := fits_widths even
  refine ⟨t.widths, rowLines t.widths t.header, t.rows.map (rowLines t.widths),
    drawnRow_rowLines head, ?_, ?_⟩
  · rw [List.forall₂_map_right_iff, List.forall₂_same]
    exact fun row member => drawnRow_rowLines (rows row member)
  · simp only [text, frameLine_eq_border, List.flatMap_def]

end PluralTemplate.Table
