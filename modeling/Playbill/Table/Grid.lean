import Playbill.Context.Basic
import Playbill.Document.Markup
import Playbill.Table.Window

/-!
# Table grids

The cells of a table laid out on the visual grid, with row and column spans.

* `TableGrid`: rows of texts, all of the same length; `get?`, `row?`, `column?`.
* `DraftGrid.place`: the rectangle of one cell; a position keeps what was there first.
* `TableGrid.ofRows`: the grid of some rows, and the anchors of their cells.
* `TableGrid.forCells`: visits to the cells inside a window.
-/

namespace Playbill

/-- A dense grid of texts; positions that no cell covers are empty. -/
structure TableGrid where
  rows : List (List Text)
  width : Nat
  deriving DecidableEq

namespace TableGrid

/-- The number of rows. -/
def height (m : TableGrid) : Nat :=
  m.rows.length

/-- A row. -/
def row? (m : TableGrid) (row : Nat) : Option (List Text) :=
  m.rows[row]?

/-- The text at a position. -/
def get? (m : TableGrid) (cell : CellPosition) : Option Text :=
  (m.row? cell.row).bind fun row => row[cell.col]?

/-- A column from top to bottom. -/
def column? (m : TableGrid) (col : Nat) : Option (List Text) :=
  if col < m.width then some (m.rows.map fun row => row[col]?.getD []) else none

end TableGrid

/-- Rows under construction; `none` is a position that is still free. -/
abbrev DraftGrid := List (List (Option Text))

namespace DraftGrid

/-- Writes values side by side from a column on; what is there already stays. -/
def writeRow : List (Option Text) → Nat → List Text → List (Option Text)
  | row, _, [] => row
  | [], 0, value :: values => some value :: writeRow [] 0 values
  | none :: row, 0, value :: values => some value :: writeRow row 0 values
  | some kept :: row, 0, _ :: values => some kept :: writeRow row 0 values
  | [], col + 1, values => none :: writeRow [] col values
  | entry :: row, col + 1, values => entry :: writeRow row col values
termination_by row col values => (row.length + col + values.length)

/-- The first free column of a row from a column on. -/
def freeFrom : List (Option Text) → Nat → Nat
  | [], col => col
  | none :: _, 0 => 0
  | some _ :: row, 0 => freeFrom row 0 + 1
  | _ :: row, col + 1 => freeFrom row col + 1

/-- A row of the grid. -/
def rowAt (grid : DraftGrid) (row : Nat) : List (Option Text) :=
  grid[row]?.getD []

/-- The values that a cell puts into one row of its rectangle. -/
def rowValues (options : GridOptions) (content : Text) (width : Nat) (isFirstRow : Bool) :
    List Text :=
  let first := isFirstRow || options.duplicateRowspan
  let others := if isFirstRow then options.duplicateColspan
    else options.duplicateRowspan && options.duplicateColspan
  (if first then content else []) :: List.replicate (width - 1) (if others then content else [])

/-- Writes the rectangle of a cell. -/
def place (options : GridOptions) (content : Text) (anchor : CellPosition) (height width : Nat)
    (grid : DraftGrid) : DraftGrid :=
  (List.range height).foldl
    (fun grid y => grid.modify (anchor.row + y) fun row =>
      writeRow row anchor.col (rowValues options content width (y == 0)))
    grid

end DraftGrid

/-- A cell of the source and the position of its upper left corner. -/
structure PlacedCell where
  anchor : CellPosition
  cell : Element

namespace TableGrid

/-- What a cell holds. -/
def content (options : GridOptions) (cell : Element) : Text :=
  match options.mode with
  | .text => Text.trim cell.text
  | .markup => cell.markup

/-- Places the cells of a row from a column on, of so many rows left in the table. -/
def placeCells (options : GridOptions) (row rowsLeft : Nat) :
    List Element → Nat → DraftGrid → DraftGrid × List PlacedCell
  | [], _, grid => (grid, [])
  | cell :: cells, start, grid =>
    let anchor : CellPosition := ⟨row, DraftGrid.freeFrom (grid.rowAt row) start⟩
    let height := min (cell.span "rowspan") rowsLeft
    let width := cell.span "colspan"
    let grid := DraftGrid.place options (content options cell) anchor height width grid
    let (grid, placed) := placeCells options row rowsLeft cells (anchor.col + width) grid
    (grid, ⟨anchor, cell⟩ :: placed)

/-- Places the cells of rows from a row on. -/
def placeRows (options : GridOptions) :
    List (List Element) → Nat → DraftGrid → DraftGrid × List PlacedCell
  | [], _, grid => (grid, [])
  | cells :: rows, row, grid =>
    let (grid, placed) := placeCells options row (rows.length + 1) cells 0 grid
    let (grid, later) := placeRows options rows (row + 1) grid
    (grid, placed ++ later)

/-- The grid of a draft: every free position is empty and every row is as long as the longest. -/
def ofDraft (grid : DraftGrid) : TableGrid :=
  let width := (grid.map (·.length)).foldl max 0
  { rows := grid.map fun row =>
      row.map (·.getD []) ++ List.replicate (width - row.length) []
    width }

/-- The grid of table rows, and their cells with the positions they start at, in document order. -/
def ofRows (options : GridOptions) (rows : List Element) : TableGrid × List PlacedCell :=
  let (grid, placed) :=
    placeRows options (rows.map (·.cellsOfRow)) 0 (List.replicate rows.length [])
  (ofDraft grid, placed)

/-- The grid of a table. -/
def ofTable (options : GridOptions) (table : Element) : TableGrid × List PlacedCell :=
  ofRows options table.rowsOfTable

/-- The context of a visit: a branch with the position and the content of the cell. -/
def cellContext (c : Context) (cell : CellPosition) (content : Text) : Recording Context := do
  let branch ← c.branch
  let placed := (branch.withIndex "row" cell.row).withIndex "col" cell.col
  return placed.withVar "cell" (.string content)

/-- Visits the cells inside a window row by row, each with a branch of its own, and gives the number
of visits. -/
def forCells {σ : Type} (m : TableGrid) (w : TableWindow) (c : Context)
    (visit : CellPosition → Text → Context → StateT σ Recording Unit) : StateT σ Recording Nat := do
  let cells := w.cells m.height m.width
  cells.forM fun cell => do
    let content := (m.get? cell).getD []
    visit cell content (← cellContext c cell content)
  return cells.length

end TableGrid

end Playbill
