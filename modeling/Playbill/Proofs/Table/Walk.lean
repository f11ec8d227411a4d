import Mathlib.Tactic
import Playbill.Proofs.Json.Members
import Playbill.Proofs.Table.Layout

/-!
# Visits to the cells of a window

Which cells of a table are visited, in which order and in which contexts, and that the loops that
visit them stay inside the grid and inside 64-bit words.

* `TableWindow.cells_eq`: the visited positions are a rectangle, although no loop computes its ends.
* `TableGrid.InWindow`: the positions of a grid that a layout selects under a cap.
* `TableGrid.loop?`: the loops in words; reading outside the grid or counting past the last word
  fails.
* `TableGrid.Walk`: calls one after another, each with a branch of its own.
* `TableGrid.forCells_walk`: the loops never fail, and the calls are those for the selected
  positions, row by row.
-/

namespace Playbill

/-! ### Windows -/

namespace TableWindow

/-- How many of `left` positions a limit leaves. -/
def room (limit : Option Nat) (left : Nat) : Nat :=
  match limit with
  | none => left
  | some limit => min limit left

theorem shift?_zero {n : Nat} (h : n < wordLimit) : shift? n 0 = some n := by
  simp only [shift?, Int.add_zero]
  rw [if_pos ⟨Int.natCast_nonneg n, Int.ofNat_lt.2 h⟩, Int.toNat_natCast]

theorem shift?_one {n : Nat} (h : n + 1 < wordLimit) : shift? n 1 = some (n + 1) := by
  unfold shift?
  rw [if_pos ⟨by omega, by omega⟩]
  rfl

theorem eq_of_shift?_zero {n m : Nat} (h : shift? n 0 = some m) : m = n := by
  by_cases hn : n < wordLimit
  · rw [shift?_zero hn] at h
    exact (Option.some.inj h).symm
  · unfold shift? at h
    rw [if_neg fun hword => hn (by omega)] at h
    cases h

theorem axisHolds_iff {n offset : Nat} {limit : Option Nat} :
    axisHolds n offset limit ↔ offset ≤ n ∧ ∀ l ∈ limit, n - offset < l := by
  cases limit <;> simp [axisHolds]

theorem axisHolds_add_iff {offset k : Nat} {limit : Option Nat} :
    axisHolds (offset + k) offset limit ↔ ∀ l ∈ limit, k < l := by
  rw [axisHolds_iff, Nat.add_sub_cancel_left]
  simp

theorem axisHolds_self_iff {offset : Nat} {limit : Option Nat} :
    axisHolds offset offset limit ↔ ∀ l ∈ limit, 0 < l :=
  axisHolds_add_iff (k := 0)

theorem axisHolds_clamp_iff {n offset : Nat} {limit : Option Nat} {cap : Cap} :
    axisHolds n offset (cap.clamp limit) ↔
      offset ≤ n ∧ (∀ l ∈ limit, n - offset < l) ∧ ∀ bound ∈ cap.limit, n - offset < bound := by
  obtain ⟨bound⟩ := cap
  rw [axisHolds_iff]
  cases limit <;> cases bound <;> simp [Cap.clamp]

/-- One position after the first leaves room for one less. -/
theorem room_succ {limit : Option Nat} {k left : Nat} (h : ∀ l ∈ limit, k < l) :
    room (limit.map (· - k)) (left + 1) = room (limit.map (· - (k + 1))) left + 1 := by
  cases limit with
  | none => rfl
  | some l =>
    have := h l rfl
    simp only [room, Option.map_some]
    omega

/-- Behind the last position of a limit there is no room. -/
theorem room_eq_zero {limit : Option Nat} {k left : Nat} (h : ¬ ∀ l ∈ limit, k < l) :
    room (limit.map (· - k)) left = 0 := by
  cases limit with
  | none => exact absurd (by simp) h
  | some l =>
    have hle : l ≤ k := by simpa using h
    simp [room, hle]

theorem room_sub_eq_zero {offset size : Nat} {limit : Option Nat}
    (h : ¬ (offset < size ∧ ∀ l ∈ limit, 0 < l)) : room limit (size - offset) = 0 := by
  by_cases hoffset : offset < size
  · simpa using room_eq_zero (k := 0) fun hlimit => h ⟨hoffset, hlimit⟩
  · rw [Nat.sub_eq_zero_of_le (Nat.not_lt.1 hoffset)]
    cases limit <;> simp [room]

section Cells

variable (w : TableWindow) {height width : Nat}

theorem contains_iff {cell : CellPosition} {rows cols : Int} :
    w.contains cell rows cols ↔
      ∃ row col, shift? cell.row rows = some row ∧ shift? cell.col cols = some col ∧
        axisHolds row w.rowOffset w.rowLimit ∧ axisHolds col w.colOffset w.colLimit := by
  unfold contains
  cases shift? cell.row rows <;> cases shift? cell.col cols <;> simp

theorem contains_eq {cell : CellPosition} {rows cols : Int} {row col : Nat}
    (hrow : shift? cell.row rows = some row) (hcol : shift? cell.col cols = some col) :
    w.contains cell rows cols =
      (axisHolds row w.rowOffset w.rowLimit && axisHolds col w.colOffset w.colLimit) := by
  rw [Bool.eq_iff_iff, contains_iff, hrow, hcol]
  simp

theorem axisHolds_of_contains {cell : CellPosition} (h : w.contains cell 0 0) :
    axisHolds cell.row w.rowOffset w.rowLimit ∧ axisHolds cell.col w.colOffset w.colLimit := by
  obtain ⟨row, col, hrow, hcol, hholds⟩ := w.contains_iff.1 h
  rwa [eq_of_shift?_zero hrow, eq_of_shift?_zero hcol] at hholds

/-- Looking ahead from column to column finds as many columns as there is room for. -/
theorem columnsFrom_eq {row : Nat} (hrow : row < wordLimit)
    (hholds : axisHolds row w.rowOffset w.rowLimit) (left : Nat) {k : Nat}
    (hleft : w.colOffset + k + left < wordLimit) (hk : ∀ l ∈ w.colLimit, k < l) :
    w.columnsFrom row (w.colOffset + k) left =
      (List.range' (w.colOffset + k) (room (w.colLimit.map (· - k)) left)).map (⟨row, ·⟩) := by
  induction left generalizing k with
  | zero => cases h : w.colLimit <;> simp [columnsFrom, room]
  | succ left ih =>
    have hcol : w.colOffset + k + 1 < wordLimit := by omega
    rw [columnsFrom, contains_eq w (shift?_zero hrow) (shift?_one hcol), hholds, Bool.true_and,
      Nat.add_assoc, room_succ hk, List.range'_succ, List.map_cons, Nat.add_assoc]
    refine congrArg (_ :: ·) ?_
    by_cases hnext : ∀ l ∈ w.colLimit, k + 1 < l
    · rw [if_pos (axisHolds_add_iff.2 hnext)]
      exact ih (by omega) hnext
    · rw [if_neg (fun h => hnext (axisHolds_add_iff.1 h)), room_eq_zero hnext]
      rfl

/-- The columns of a window that a table of some width has. -/
def columnsOf (width : Nat) : List Nat :=
  List.range' w.colOffset (room w.colLimit (width - w.colOffset))

theorem columnsOf_eq_nil (h : ¬ (w.colOffset < width ∧ ∀ l ∈ w.colLimit, 0 < l)) :
    w.columnsOf width = [] := by
  rw [columnsOf, room_sub_eq_zero h, List.range'_zero]

/-- Without columns there are no positions, although the loop goes through the rows. -/
theorem rowsFrom_eq_nil (h : ¬ (w.colOffset < width ∧ ∀ l ∈ w.colLimit, 0 < l)) (row left : Nat) :
    w.rowsFrom width row left = [] := by
  induction left generalizing row with
  | zero => rfl
  | succ left ih =>
    rw [rowsFrom, ih]
    split
    · rename_i hcontains
      have hoffset : ¬ w.colOffset < width := fun hoffset =>
        h ⟨hoffset, axisHolds_self_iff.1 (w.axisHolds_of_contains hcontains).2⟩
      rw [Nat.sub_eq_zero_of_le (Nat.not_lt.1 hoffset), columnsFrom]
      split <;> rfl
    · rfl

/-- Looking ahead from row to row finds as many rows as there is room for. -/
theorem rowsFrom_eq (hwidth : width < wordLimit) (left : Nat) {k : Nat}
    (hleft : w.rowOffset + k + left < wordLimit) (hk : ∀ l ∈ w.rowLimit, k < l) :
    w.rowsFrom width (w.rowOffset + k) left =
      (List.range' (w.rowOffset + k) (room (w.rowLimit.map (· - k)) left)).flatMap fun row =>
        (w.columnsOf width).map (⟨row, ·⟩) := by
  by_cases hcols : w.colOffset < width ∧ ∀ l ∈ w.colLimit, 0 < l
  · obtain ⟨hoffset, hlimit⟩ := hcols
    have hcol := shift?_zero (hoffset.trans hwidth)
    have hcolHolds : axisHolds w.colOffset w.colOffset w.colLimit := axisHolds_self_iff.2 hlimit
    induction left generalizing k with
    | zero => cases h : w.rowLimit <;> simp [rowsFrom, room]
    | succ left ih =>
      have hrow : w.rowOffset + k < wordLimit := by omega
      have hbelow : w.rowOffset + k + 1 < wordLimit := by omega
      have hholds : axisHolds (w.rowOffset + k) w.rowOffset w.rowLimit := axisHolds_add_iff.2 hk
      have hcolumns : w.columnsFrom (w.rowOffset + k) w.colOffset (width - w.colOffset) =
          (w.columnsOf width).map (⟨w.rowOffset + k, ·⟩) := by
        simpa [columnsOf] using
          w.columnsFrom_eq hrow hholds (width - w.colOffset) (k := 0) (by omega) hlimit
      have hhere : w.contains ⟨w.rowOffset + k, w.colOffset⟩ 0 0 :=
        w.contains_iff.2 ⟨_, _, shift?_zero hrow, hcol, hholds, hcolHolds⟩
      have hahead : w.contains ⟨w.rowOffset + k, w.colOffset⟩ 1 0 =
          (axisHolds (w.rowOffset + k + 1) w.rowOffset w.rowLimit &&
            axisHolds w.colOffset w.colOffset w.colLimit) :=
        contains_eq w (shift?_one hbelow) hcol
      rw [rowsFrom, if_pos hhere, hahead, hcolHolds, Bool.and_true, hcolumns, room_succ hk,
        List.range'_succ, List.flatMap_cons, Nat.add_assoc]
      refine congrArg (_ ++ ·) ?_
      by_cases hnext : ∀ l ∈ w.rowLimit, k + 1 < l
      · rw [if_pos (axisHolds_add_iff.2 hnext)]
        exact ih (by omega) hnext
      · rw [if_neg (fun h => hnext (axisHolds_add_iff.1 h)), room_eq_zero hnext]
        rfl
  · simp [rowsFrom_eq_nil w hcols, columnsOf_eq_nil w hcols]

/-- The visited positions are a rectangle, although neither loop computes its ends. -/
theorem cells_eq (hheight : height < wordLimit) (hwidth : width < wordLimit) :
    w.cells height width =
      (List.range' w.rowOffset (room w.rowLimit (height - w.rowOffset))).flatMap fun row =>
        (w.columnsOf width).map (⟨row, ·⟩) := by
  unfold cells
  by_cases hrow : w.rowOffset < height ∧ ∀ l ∈ w.rowLimit, 0 < l
  · simpa using rowsFrom_eq w hwidth (height - w.rowOffset) (k := 0) (by omega) hrow.2
  · rw [room_sub_eq_zero hrow, List.range'_zero, List.flatMap_nil]
    cases hleft : height - w.rowOffset with
    | zero => rfl
    | succ left =>
      rw [rowsFrom, if_neg]
      intro hcontains
      exact hrow ⟨by omega, axisHolds_self_iff.1 (w.axisHolds_of_contains hcontains).1⟩

end Cells

end TableWindow

/-- The order of the positions of a grid: row by row, and from left to right in a row. -/
def CellPosition.Before (p q : CellPosition) : Prop :=
  p.row < q.row ∨ p.row = q.row ∧ p.col < q.col

namespace TableWindow

variable (w : TableWindow) {height width : Nat}

theorem mem_range'_room {n offset size : Nat} {limit : Option Nat} :
    n ∈ List.range' offset (room limit (size - offset)) ↔ n < size ∧ axisHolds n offset limit := by
  rw [List.mem_range'_1, axisHolds_iff]
  cases limit <;> simp [room] <;> omega

theorem mem_cells_iff (hheight : height < wordLimit) (hwidth : width < wordLimit)
    {pos : CellPosition} :
    pos ∈ w.cells height width ↔
      (pos.row < height ∧ axisHolds pos.row w.rowOffset w.rowLimit) ∧
        pos.col < width ∧ axisHolds pos.col w.colOffset w.colLimit := by
  obtain ⟨row, col⟩ := pos
  rw [cells_eq w hheight hwidth]
  simp only [List.mem_flatMap, List.mem_map, columnsOf, mem_range'_room, CellPosition.mk.injEq]
  constructor
  · rintro ⟨_, hrow, _, hcol, rfl, rfl⟩
    exact ⟨hrow, hcol⟩
  · rintro ⟨hrow, hcol⟩
    exact ⟨row, hrow, col, hcol, rfl, rfl⟩

theorem pairwise_cells (hheight : height < wordLimit) (hwidth : width < wordLimit) :
    (w.cells height width).Pairwise CellPosition.Before := by
  rw [cells_eq w hheight hwidth, List.pairwise_flatMap]
  constructor
  · intro row _
    rw [List.pairwise_map]
    exact List.Pairwise.imp (fun hlt => .inr ⟨rfl, hlt⟩) List.pairwise_lt_range'
  · refine List.Pairwise.imp (fun hlt p hp q hq => ?_) List.pairwise_lt_range'
    obtain ⟨_, -, rfl⟩ := List.mem_map.1 hp
    obtain ⟨_, -, rfl⟩ := List.mem_map.1 hq
    exact .inl hlt

end TableWindow

/-! ### The loops in words -/

namespace TableGrid

/-- A call of the visit: a position and the text there. -/
abbrev CellCall := CellPosition × Text

/-- A number that is a word. -/
def word? (n : Nat) : Option Nat :=
  if n < wordLimit then some n else none

theorem word?_of_lt {n : Nat} (h : n < wordLimit) : word? n = some n :=
  if_pos h

/-- The loop over the columns of a row: the calls from a column on, and the number of calls, which
is counted on from those before.  The window says after which columns the loop goes on. -/
def columnLoop? (m : TableGrid) (goesOn : Nat → Bool) (row col visited : Nat) :
    Option (List CellCall × Nat) :=
  if col < m.width then do
    let text ← m.get? ⟨row, col⟩
    let visited ← word? (visited + 1)
    if goesOn col then
      let _ ← word? (col + 1)
      let (calls, visited) ← columnLoop? m goesOn row (col + 1) visited
      return ((⟨row, col⟩, text) :: calls, visited)
    else return ([(⟨row, col⟩, text)], visited)
  else return ([], visited)
termination_by m.width - col

/-- One turn of the loop over the rows: the calls, their number, and whether a row follows. -/
def rowTurn? (m : TableGrid) (w : TableWindow) (row visited : Nat) :
    Option (List CellCall × Nat × Bool) :=
  if w.contains ⟨row, w.colOffset⟩ 0 0 then do
    let goesOn (col : Nat) := w.contains ⟨row, col⟩ 0 1
    let (calls, visited) ← columnLoop? m goesOn row w.colOffset visited
    return (calls, visited, w.contains ⟨row, w.colOffset⟩ 1 0)
  else return ([], visited, false)

/-- The loop over the rows. -/
def rowLoop? (m : TableGrid) (w : TableWindow) (row visited : Nat) :
    Option (List CellCall × Nat) :=
  if row < m.height then do
    let (calls, visited, goesOn) ← rowTurn? m w row visited
    if goesOn then
      let _ ← word? (row + 1)
      let (later, visited) ← rowLoop? m w (row + 1) visited
      return (calls ++ later, visited)
    else return (calls, visited)
  else return ([], visited)
termination_by m.height - row

/-- Both loops from the start of a window: the calls and their number. -/
def loop? (m : TableGrid) (w : TableWindow) : Option (List CellCall × Nat) :=
  rowLoop? m w w.rowOffset 0

/-- Every position inside the bounds of a grid has a text. -/
def Dense (m : TableGrid) : Prop :=
  ∀ row col, row < m.height → col < m.width → ∃ text, m.get? ⟨row, col⟩ = some text

/-- The grid can be held in words: its rows, its columns and its positions can be counted, as in any
memory that words address. -/
structure FitsWords (m : TableGrid) : Prop where
  height_lt : m.height < wordLimit
  width_lt : m.width < wordLimit
  size_lt : m.height * m.width < wordLimit

/-- The calls for some positions. -/
def callsAt (m : TableGrid) (positions : List CellPosition) : List CellCall :=
  positions.map fun pos => (pos, (m.get? pos).getD [])

theorem length_columnsFrom_le (w : TableWindow) (row col left : Nat) :
    (w.columnsFrom row col left).length ≤ left := by
  induction left generalizing col with
  | zero => exact Nat.zero_le _
  | succ left ih =>
    rw [TableWindow.columnsFrom, List.length_cons]
    split
    · exact Nat.succ_le_succ (ih _)
    · exact Nat.succ_le_succ (Nat.zero_le _)

theorem columnLoop?_eq {m : TableGrid} (hdense : m.Dense) (hwidth : m.width < wordLimit)
    {w : TableWindow} {row : Nat} (hrow : row < m.height) {goesOn : Nat → Bool}
    (hgoesOn : ∀ col, w.contains ⟨row, col⟩ 0 1 = goesOn col) (left : Nat) {col visited : Nat}
    (hleft : m.width - col = left) (hvisited : visited + left < wordLimit) :
    columnLoop? m goesOn row col visited =
      some (m.callsAt (w.columnsFrom row col left),
        visited + (w.columnsFrom row col left).length) := by
  induction left generalizing col visited with
  | zero =>
    rw [columnLoop?, if_neg (by omega)]
    rfl
  | succ left ih =>
    obtain ⟨text, htext⟩ := hdense row col hrow (by omega)
    have hnext : word? (visited + 1) = some (visited + 1) := word?_of_lt (by omega)
    have hcol : word? (col + 1) = some (col + 1) := word?_of_lt (by omega)
    have hlater : columnLoop? m goesOn row (col + 1) (visited + 1) = _ :=
      ih (by omega) (by omega)
    rw [columnLoop?, if_pos (by omega), TableWindow.columnsFrom, hgoesOn, htext, hnext, hcol]
    cases goesOn col
    · simp [callsAt, htext]
    · simp [hlater, callsAt, htext]
      omega

/-- The calls of one row, and whether another row follows. -/
theorem rowTurn?_eq {m : TableGrid} (hdense : m.Dense) (hwidth : m.width < wordLimit)
    (w : TableWindow) {row visited : Nat} (hrow : row < m.height)
    (hvisited : visited + m.width < wordLimit) :
    rowTurn? m w row visited =
      if w.contains ⟨row, w.colOffset⟩ 0 0 then
        let cells := w.columnsFrom row w.colOffset (m.width - w.colOffset)
        some (m.callsAt cells, visited + cells.length, w.contains ⟨row, w.colOffset⟩ 1 0)
      else some ([], visited, false) := by
  have hcolumns := columnLoop?_eq hdense hwidth hrow (w := w) (fun _ => rfl)
    (m.width - w.colOffset) rfl (by omega : visited + (m.width - w.colOffset) < wordLimit)
  unfold rowTurn?
  simp only [hcolumns]
  rfl

theorem rowLoop?_eq {m : TableGrid} (hdense : m.Dense) (hheight : m.height < wordLimit)
    (hwidth : m.width < wordLimit) (w : TableWindow) (left : Nat) {row visited : Nat}
    (hleft : m.height - row = left) (hvisited : visited + left * m.width < wordLimit) :
    rowLoop? m w row visited =
      some (m.callsAt (w.rowsFrom m.width row left),
        visited + (w.rowsFrom m.width row left).length) := by
  induction left generalizing row visited with
  | zero =>
    rw [rowLoop?, if_neg (by omega)]
    rfl
  | succ left ih =>
    have hword : word? (row + 1) = some (row + 1) := word?_of_lt (by omega)
    rw [Nat.succ_mul] at hvisited
    have hcells := length_columnsFrom_le w row w.colOffset (m.width - w.colOffset)
    rw [rowLoop?, if_pos (by omega), rowTurn?_eq hdense hwidth w (by omega) (by omega),
      TableWindow.rowsFrom, hword]
    generalize w.columnsFrom row w.colOffset (m.width - w.colOffset) = cells at hcells
    cases w.contains ⟨row, w.colOffset⟩ 0 0 with
    | false => rfl
    | true =>
      cases w.contains ⟨row, w.colOffset⟩ 1 0 with
      | false => simp
      | true =>
        have hlater : rowLoop? m w (row + 1) (visited + cells.length) = _ :=
          ih (by omega) (by omega)
        simp [hlater, callsAt]
        omega

/-- The loops never fail, and their calls are those for the visited positions. -/
theorem loop?_eq {m : TableGrid} (hdense : m.Dense) (hfits : m.FitsWords) (w : TableWindow) :
    m.loop? w = some (m.callsAt (w.cells m.height m.width), (w.cells m.height m.width).length) := by
  have hsize := Nat.mul_le_mul_right m.width (Nat.sub_le m.height w.rowOffset)
  have hcount := hfits.size_lt
  have hloop : m.loop? w = _ := rowLoop?_eq hdense hfits.height_lt hfits.width_lt w
    (m.height - w.rowOffset) rfl (by omega)
  rwa [Nat.zero_add] at hloop

/-! ### Calls -/

/-- A branch for a cell: a copy of a context with a scope of its own, in which the position and the
text of the cell are set. -/
structure IsCellContext (c : Context) (scope : Nat) (call : CellCall) (entry : Context) : Prop where
  lineage : entry.lineage = scope :: c.lineage
  row : entry.index? "row" = some call.1.row
  col : entry.index? "col" = some call.1.col
  cell : entry.var? "cell" = some (.string call.2)
  indexes : ∀ name : Text, name ≠ "row" → name ≠ "col" → entry.index? name = c.index? name
  vars : ∀ name : Text, name ≠ "cell" → entry.var? name = c.var? name
  others : entry.date = c.date ∧ entry.movie = c.movie ∧ entry.frames = c.frames ∧
    entry.dateFormat = c.dateFormat ∧ entry.dateLocale = c.dateLocale

/-- Calls one after another, each with a branch of its own, begun in the state that the call before
it left. -/
inductive Walk {σ : Type} (visit : CellPosition → Text → Context → StateT σ Recording Unit)
    (c : Context) : σ × WarningLog → List CellCall → σ × WarningLog → Prop
  | nil (world : σ × WarningLog) : Walk visit c world [] world
  | cons {world next last : σ × WarningLog} {call : CellCall} {calls : List CellCall}
      {entry : Context} (fresh : IsCellContext c world.2.length call entry)
      (visited : visit call.1 call.2 entry world.1 (world.2 ++ [[]]) = (((), next.1), next.2))
      (rest : Walk visit c next calls last) : Walk visit c world (call :: calls) last

/-- The branch that is made for a call. -/
def entryOf (c : Context) (scope : Nat) (call : CellCall) : Context :=
  (({ c with lineage := scope :: c.lineage }.withIndex "row" call.1.row).withIndex "col"
    call.1.col).withVar "cell" (.string call.2)

theorem isCellContext_entryOf (c : Context) (scope : Nat) (call : CellCall) :
    IsCellContext c scope call (entryOf c scope call) := by
  have hindex (name : Text) : (entryOf c scope call).index? name =
      if ("col" : Text) = name then some call.1.col
      else if ("row" : Text) = name then some call.1.row else c.index? name :=
    (Members.find?_insert ..).trans (if_congr Iff.rfl rfl (Members.find?_insert ..))
  have hvar (name : Text) : (entryOf c scope call).var? name =
      if ("cell" : Text) = name then some (.string call.2) else c.var? name :=
    Members.find?_insert ..
  exact {
    lineage := rfl
    row := (hindex _).trans rfl
    col := (hindex _).trans rfl
    cell := (hvar _).trans rfl
    indexes := fun name hrow hcol => by rw [hindex, if_neg hcol.symm, if_neg hrow.symm]
    vars := fun name hcell => by rw [hvar, if_neg hcell.symm]
    others := ⟨rfl, rfl, rfl, rfl, rfl⟩ }

variable {σ : Type}

/-- One call, at a position of a grid. -/
def callAt (m : TableGrid) (visit : CellPosition → Text → Context → StateT σ Recording Unit)
    (c : Context) (pos : CellPosition) : StateT σ Recording Unit := do
  let content := (m.get? pos).getD []
  visit pos content (← cellContext c pos content)

/-- All calls are made, one after another. -/
theorem forM_walk (m : TableGrid)
    (visit : CellPosition → Text → Context → StateT σ Recording Unit) (c : Context)
    (positions : List CellPosition) (world : σ × WarningLog) :
    ∃ last, Walk visit c world (m.callsAt positions) last ∧
      positions.forM (callAt m visit c) world.1 world.2 = (((), last.1), last.2) := by
  induction positions generalizing world with
  | nil => exact ⟨world, .nil world, rfl⟩
  | cons pos positions ih =>
    let call : CellCall := (pos, (m.get? pos).getD [])
    rcases hvisit : visit call.1 call.2 (entryOf c world.2.length call) world.1 (world.2 ++ [[]])
      with ⟨⟨⟨⟩, s⟩, log⟩
    obtain ⟨last, hwalk, hrun⟩ := ih (s, log)
    refine ⟨last, .cons (isCellContext_entryOf c world.2.length call) hvisit hwalk, ?_⟩
    have hcall : callAt m visit c pos world.1 world.2 = (((), s), log) := hvisit
    calc (pos :: positions).forM (callAt m visit c) world.1 world.2
        = (match callAt m visit c pos world.1 world.2 with
          | ((_, s'), log') => positions.forM (callAt m visit c) s' log') := rfl
      _ = (((), last.1), last.2) := by rw [hcall]; exact hrun

theorem forCells_eq (m : TableGrid) (w : TableWindow) (c : Context)
    (visit : CellPosition → Text → Context → StateT σ Recording Unit) :
    m.forCells w c visit = do
      (w.cells m.height m.width).forM (callAt m visit c)
      return (w.cells m.height m.width).length :=
  rfl

theorem dense_ofDraft (grid : DraftGrid) : (ofDraft grid).Dense := by
  intro row col hrow hcol
  have hheight : row < grid.length := by simpa [height, ofDraft] using hrow
  simp [get?, row?, DraftGrid.rows_ofDraft, hheight, hcol]

/-! ### Windows of layouts -/

/-- An index lies inside one axis of a window: not before the offset, inside the table, and as far
behind the offset as neither the limit nor the cap forbids. -/
structure OnAxis (offset size : Nat) (limit cap : Option Nat) (index : Nat) : Prop where
  offset_le : offset ≤ index
  lt_size : index < size
  limit : ∀ l ∈ limit, index - offset < l
  cap : ∀ bound ∈ cap, index - offset < bound

/-- A position of a grid lies in the window of a layout under a cap. -/
structure InWindow (m : TableGrid) (layout : TableLayout) (cap : Cap) (pos : CellPosition) :
    Prop where
  row : OnAxis ((layout.headerRow.map (·.offset)).getD 0) m.height
    (layout.cells.bind (·.rowLimit)) cap.limit pos.row
  col : OnAxis ((layout.headerColumn.map (·.offset)).getD 0) m.width
    (layout.cells.bind (·.columnLimit)) cap.limit pos.col

theorem onAxis_iff {offset size index : Nat} {limit : Option Nat} {cap : Cap} :
    OnAxis offset size limit cap.limit index ↔
      index < size ∧ TableWindow.axisHolds index offset (cap.clamp limit) := by
  rw [TableWindow.axisHolds_clamp_iff]
  exact ⟨fun h => ⟨h.lt_size, h.offset_le, h.limit, h.cap⟩,
    fun h => ⟨h.2.1, h.1, h.2.2.1, h.2.2.2⟩⟩

theorem inWindow_iff {m : TableGrid} (hfits : m.FitsWords) {layout : TableLayout} {cap : Cap}
    {pos : CellPosition} :
    m.InWindow layout cap pos ↔
      pos ∈ (TableWindow.ofLayout layout cap).cells m.height m.width := by
  have hlimits : (layout.cells.getD {}).rowLimit = layout.cells.bind (·.rowLimit) ∧
      (layout.cells.getD {}).columnLimit = layout.cells.bind (·.columnLimit) := by
    cases layout.cells <;> exact ⟨rfl, rfl⟩
  rw [TableWindow.mem_cells_iff _ hfits.height_lt hfits.width_lt, TableWindow.ofLayout, hlimits.1,
    hlimits.2, ← onAxis_iff, ← onAxis_iff]
  exact ⟨fun h => ⟨h.row, h.col⟩, fun h => ⟨h.1, h.2⟩⟩

theorem mem_callsAt_cells_iff {m : TableGrid} (hdense : m.Dense) (hfits : m.FitsWords)
    {layout : TableLayout} {cap : Cap} {pos : CellPosition} {text : Text} :
    (pos, text) ∈ m.callsAt ((TableWindow.ofLayout layout cap).cells m.height m.width) ↔
      m.InWindow layout cap pos ∧ m.get? pos = some text := by
  rw [callsAt, List.mem_map, inWindow_iff hfits]
  constructor
  · rintro ⟨pos', hmem, heq⟩
    obtain ⟨rfl, rfl⟩ := Prod.mk.inj heq
    have hin := (inWindow_iff hfits).2 hmem
    obtain ⟨text, htext⟩ := hdense pos'.row pos'.col hin.row.lt_size hin.col.lt_size
    exact ⟨hmem, by rw [htext]; rfl⟩
  · rintro ⟨hmem, htext⟩
    exact ⟨pos, hmem, by rw [htext]; rfl⟩

/-- **Visits to the cells of a window.**  The loops never read outside the grid and never count past
the last word; the visit is called once for each position of the grid that lies in the window, row
by row, with the text there and a branch of its own; and the number of calls is returned. -/
theorem forCells_walk (options : GridOptions) (rows : List Element) (layout : TableLayout)
    (cap : Cap) (hfits : (ofRows options rows).1.FitsWords) (c : Context)
    (visit : CellPosition → Text → Context → StateT σ Recording Unit) (world : σ × WarningLog) :
    let m := (ofRows options rows).1
    let w := TableWindow.ofLayout layout cap
    ∃ (calls : List CellCall) (last : σ × WarningLog),
      (calls.map Prod.fst).Pairwise CellPosition.Before ∧
      (∀ pos text, (pos, text) ∈ calls ↔ m.InWindow layout cap pos ∧ m.get? pos = some text) ∧
      m.loop? w = some (calls, calls.length) ∧
      Walk visit c world calls last ∧
      m.forCells w c visit world.1 world.2 = ((calls.length, last.1), last.2) := by
  intro m w
  have hdense : m.Dense := dense_ofDraft _
  obtain ⟨last, hwalk, hrun⟩ := forM_walk m visit c (w.cells m.height m.width) world
  have hpositions : (m.callsAt (w.cells m.height m.width)).map Prod.fst =
      w.cells m.height m.width := by
    simp [callsAt, Function.comp_def]
  refine ⟨m.callsAt (w.cells m.height m.width), last, ?_, ?_, ?_, hwalk, ?_⟩
  · rw [hpositions]
    exact w.pairwise_cells hfits.height_lt hfits.width_lt
  · exact fun pos text => mem_callsAt_cells_iff hdense hfits
  · rw [loop?_eq hdense hfits, callsAt, List.length_map]
  · rw [forCells_eq, callsAt, List.length_map]
    calc _ = (match (w.cells m.height m.width).forM (callAt m visit c) world.1 world.2 with
          | ((_, s), log) => (((w.cells m.height m.width).length, s), log)) := rfl
      _ = _ := by rw [hrun]

/-- Two rows of two cells. -/
def squareRows : List Element :=
  [[['a'], ['b']], [['c'], ['d']]].map fun texts =>
    ⟨['t', 'r'], [], texts.map fun t => .element ['t', 'd'] [] [.text t], []⟩

/-- A window after the first row and the first column, the last row of which is no word. -/
def lateLayout : TableLayout where
  headerRow := some ⟨1⟩
  headerColumn := some ⟨1⟩
  cells := some { rowLimit := some (wordLimit - 1) }

/-- A caller that gathers the texts. -/
def gather (_ : CellPosition) (text : Text) (_ : Context) : StateT (List Text) Recording Unit :=
  modify (· ++ [text])

theorem ofRows_squareRows :
    (ofRows {} squareRows).1 = ⟨[[['a'], ['b']], [['c'], ['d']]], 2⟩ := by
  cbv

theorem fitsWords_squareRows : (ofRows {} squareRows).1.FitsWords := by
  rw [ofRows_squareRows]
  exact ⟨by decide, by decide, by decide⟩

/-- A window that starts inside the table and ends beyond the words. -/
theorem forCells_walk_lateLayout :
    (ofRows {} squareRows).1.FitsWords ∧
      (let m := (ofRows {} squareRows).1
      let w := TableWindow.ofLayout lateLayout ⟨some 5⟩
      ∃ (calls : List CellCall) (last : List Text × WarningLog),
        (calls.map Prod.fst).Pairwise CellPosition.Before ∧
        (∀ pos text, (pos, text) ∈ calls ↔
          m.InWindow lateLayout ⟨some 5⟩ pos ∧ m.get? pos = some text) ∧
        m.loop? w = some (calls, calls.length) ∧
        Walk gather { lineage := [0] } ([], [[]]) calls last ∧
        m.forCells w { lineage := [0] } gather [] [[]] = ((calls.length, last.1), last.2)) :=
  ⟨fitsWords_squareRows, forCells_walk {} squareRows lateLayout ⟨some 5⟩ fitsWords_squareRows
    { lineage := [0] } gather ([], [[]])⟩

end TableGrid

end Playbill
