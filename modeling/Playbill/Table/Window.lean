import Playbill.Cap
import Playbill.Declaration.Basic

/-!
# Windows of tables

A window starts at an offset on each axis and reaches as far as its limit; without a limit it has no
end.  Coordinates are 64-bit words.

* `CellPosition`: a position on the grid.
* `TableWindow`, `TableWindow.ofLayout`: the window of a table layout under a cap.
* `TableWindow.contains`: whether a shifted position lies inside.
* `TableWindow.lastRow`, `TableWindow.lastColumn`: the ends of a window.
* `TableWindow.cells`: the positions visited in a table of some size.
-/

namespace Playbill

/-- A position on the visual grid, counted from zero. -/
structure CellPosition where
  row : Nat
  col : Nat
  deriving DecidableEq

/-- A window of rows and columns. -/
structure TableWindow where
  rowOffset : Nat := 0
  colOffset : Nat := 0
  rowLimit : Option Nat := none
  colLimit : Option Nat := none
  deriving DecidableEq

/-- The last position of an axis inside a window, if there is one; the end of a window is computed
in 64-bit words and may lie beyond them. -/
inductive AxisEnd
  | unbounded
  | last (position : Nat)
  | beyond
  deriving DecidableEq

namespace TableWindow

/-- The window of a table layout; the cap bounds both limits. -/
def ofLayout (layout : TableLayout) (cap : Cap) : TableWindow :=
  let cells := layout.cells.getD {}
  { rowOffset := (layout.headerRow.map (·.offset)).getD 0
    colOffset := (layout.headerColumn.map (·.offset)).getD 0
    rowLimit := cap.clamp cells.rowLimit
    colLimit := cap.clamp cells.columnLimit }

/-- The last position of an axis; the sum of offset and limit has to be a word. -/
def axisEnd (offset : Nat) (limit : Option Nat) : AxisEnd :=
  match limit with
  | none => .unbounded
  | some 0 => .unbounded
  | some limit => if offset + limit < wordLimit then .last (offset + limit - 1) else .beyond

/-- The last row inside the window. -/
def lastRow (w : TableWindow) : AxisEnd :=
  axisEnd w.rowOffset w.rowLimit

/-- The last column inside the window. -/
def lastColumn (w : TableWindow) : AxisEnd :=
  axisEnd w.colOffset w.colLimit

/-- A coordinate moved by a signed distance, if it stays a word. -/
def shift? (value : Nat) (distance : Int) : Option Nat :=
  let moved := (value : Int) + distance
  if 0 ≤ moved ∧ moved < wordLimit then some moved.toNat else none

/-- Whether a coordinate lies inside an axis. -/
def axisHolds (value offset : Nat) (limit : Option Nat) : Bool :=
  offset ≤ value && limit.all fun limit => value - offset < limit

/-- Whether a position, moved by rows and columns, lies inside the window. -/
def contains (w : TableWindow) (cell : CellPosition) (rows cols : Int) : Bool :=
  match shift? cell.row rows, shift? cell.col cols with
  | some row, some col =>
    axisHolds row w.rowOffset w.rowLimit && axisHolds col w.colOffset w.colLimit
  | _, _ => false

/-- The visited positions of a row from a column on, of so many columns left: the next column
follows as long as it lies inside. -/
def columnsFrom (w : TableWindow) (row : Nat) : Nat → Nat → List CellPosition
  | _, 0 => []
  | col, left + 1 =>
    ⟨row, col⟩ :: if w.contains ⟨row, col⟩ 0 1 then columnsFrom w row (col + 1) left else []

/-- The visited positions from a row on, of so many rows left in a table of so many columns. -/
def rowsFrom (w : TableWindow) (width : Nat) : Nat → Nat → List CellPosition
  | _, 0 => []
  | row, left + 1 =>
    if w.contains ⟨row, w.colOffset⟩ 0 0 then
      columnsFrom w row w.colOffset (width - w.colOffset) ++
        if w.contains ⟨row, w.colOffset⟩ 1 0 then rowsFrom w width (row + 1) left else []
    else []

/-- The positions visited in a table of so many rows and columns, row by row. -/
def cells (w : TableWindow) (height width : Nat) : List CellPosition :=
  rowsFrom w width w.rowOffset (height - w.rowOffset)

end TableWindow

end Playbill
