import SiteAudit.Text.LineColumns
import SiteAudit.Text.Pieces

/-!
# Tables

A table with a header, drawn with lines and round corners. Columns are as
wide as their widest line, counted in terminal columns. A cell may have
several lines; the other cells of its row are then filled up from below.

A table without rows ends after the line under the header.

## Main results

* `length_drawRow` — a row is drawn on as many lines as its tallest cell has.
-/

namespace SiteAudit.Layout

/-- A header and rows with as many cells. -/
structure Table where
  header : List String
  rows : List (List String)
deriving Repr, DecidableEq

namespace Table

/-- The lines of a cell. -/
def cellLines (cell : String) : List (List Char) := Text.pieces '\n' cell.toList

/-- The columns of a cell: those of its widest line. -/
def cellColumns (cell : String) : Nat :=
  ((cellLines cell).map Text.lineColumns).foldl max 0

/-- How many lines the tallest cell of a row has. -/
def rowHeight (row : List String) : Nat := (row.map fun cell => (cellLines cell).length).foldl max 0

/-- The widths of the columns of a table. -/
def widths (t : Table) : List Nat :=
  t.rows.foldl (fun widths row => List.zipWith max widths (row.map cellColumns))
    (t.header.map cellColumns)

/-- A line of a cell with a blank on either side, filled up to a width. -/
def padded (width : Nat) (line : List Char) : String :=
  String.ofList (' ' :: line ++ List.replicate (width - Text.lineColumns line + 1) ' ')

/-- One line of a row. -/
def drawLine (widths : List Nat) (row : List String) (index : Nat) : String :=
  let cells := List.zipWith (fun width cell => padded width ((cellLines cell)[index]?.getD []))
    widths row
  "│" ++ Text.joinWith "│" cells ++ "│"

/-- The lines of a row. -/
def drawRow (widths : List Nat) (row : List String) : List String :=
  (List.range (rowHeight row)).map (drawLine widths row)

/-- A line across the table, with these signs at its left, between columns and at its right. -/
def drawRule (widths : List Nat) (left between right : String) : String :=
  left ++
    Text.joinWith between
      (widths.map fun width => String.ofList (List.replicate (width + 2) '─')) ++
    right

/-- The lines of a table. -/
def draw (t : Table) : List String :=
  let widths := t.widths
  [drawRule widths "╭" "┬" "╮"] ++ drawRow widths t.header ++ [drawRule widths "├" "┼" "┤"] ++
    t.rows.flatMap (drawRow widths) ++
    (if t.rows.isEmpty then [] else [drawRule widths "╰" "┴" "╯"])

/-- A table as text. -/
def text (t : Table) : String := Text.joinWith "\n" t.draw

/-- A row is drawn on as many lines as its tallest cell has. -/
theorem length_drawRow (widths : List Nat) (row : List String) :
    (drawRow widths row).length = rowHeight row := by
  simp [drawRow]

end Table

end SiteAudit.Layout
