import Playbill.Json.Decoder
import Playbill.Table.Window

/-!
# Positions and windows as JSON

* `CellPosition.decode`, `CellPosition.toJson`: a record of row and column.
* `TableWindow.decode`: an array of the two offsets and the two limits.
-/

namespace Playbill

/-- A position, both parts of which have to be there. -/
def CellPosition.decode : Decoder CellPosition :=
  decodeRecord "CellRef" ⟨0, 0⟩
    [(RecordField.of "row" .unsigned fun v r => { r with row := v }).must,
      (RecordField.of "col" .unsigned fun v r => { r with col := v }).must]

/-- The JSON form of a position. -/
def CellPosition.toJson (cell : CellPosition) : Json :=
  .ofMembers [("row", .ofNat cell.row), ("col", .ofNat cell.col)]

/-- A window, written as row offset, column offset, row limit and column limit. -/
def TableWindow.decode : Decoder TableWindow :=
  decodeTuple {}
    [.of [] .unsigned fun v r => { r with rowOffset := v },
      .of [] .unsigned fun v r => { r with colOffset := v },
      .of [] (.optional .unsigned) fun v r => { r with rowLimit := v },
      .of [] (.optional .unsigned) fun v r => { r with colLimit := v }]

end Playbill
