import Playbill.Proofs.Table.Draft

/-!
# The layout of spanning cells

Where the cells of a table stand, and what each position of the grid shows, said without a draft:
by the rectangles of the cells placed before.

* `PlacedCell.Covers`: the rectangle of a cell; its rows end with the table.
* `PlacedCell.Follows`: a cell stands at the first free column after its neighbour on the left.
* `IsLayout`: all cells in document order, each of which follows those before it.
* `TableGrid.showing`: the grid that placed cells show; the first cell at a position wins.
* `ofRows_layout`: the grid of some rows is the one that the layout of the rows shows.
-/

namespace Playbill

namespace PlacedCell

/-- The number of columns of a cell. -/
def width (p : PlacedCell) : Nat :=
  p.cell.span "colspan"

/-- The number of rows of a cell in a table of `n` rows. -/
def height (n : Nat) (p : PlacedCell) : Nat :=
  min (p.cell.span "rowspan") (n - p.anchor.row)

/-- The column after a cell. -/
def endCol (p : PlacedCell) : Nat :=
  p.anchor.col + p.width

/-- A position lies in the rectangle of a cell in a table of `n` rows. -/
def Covers (n : Nat) (p : PlacedCell) (pos : CellPosition) : Prop :=
  (p.anchor.row ≤ pos.row ∧ pos.row < p.anchor.row + p.height n) ∧
    p.anchor.col ≤ pos.col ∧ pos.col < p.endCol

instance (n : Nat) (p : PlacedCell) (pos : CellPosition) : Decidable (p.Covers n pos) :=
  inferInstanceAs (Decidable (_ ∧ _))

/-- The column after the latest of some placed cells that starts in a row; 0 if none does. -/
def endInRow (row : Nat) (before : List PlacedCell) : Nat :=
  ((before.filter fun q => q.anchor.row = row).getLast?.map endCol).getD 0

/-- A cell stands at the least column of its row that lies after its neighbour on the left and in no
rectangle of the cells before it. -/
def Follows (n : Nat) (before : List PlacedCell) (p : PlacedCell) : Prop :=
  IsLeast {c | endInRow p.anchor.row before ≤ c ∧ ∀ q ∈ before, ¬ q.Covers n ⟨p.anchor.row, c⟩}
    p.anchor.col

/-- Each of some cells follows the cells before it. -/
def Consecutive (n : Nat) : List PlacedCell → List PlacedCell → Prop
  | _, [] => True
  | before, p :: placed => p.Follows n before ∧ Consecutive n (before ++ [p]) placed

end PlacedCell

open PlacedCell

/-- The cells of some rows in document order, each with the number of its row. -/
def cellsInOrder (rows : List Element) : List (Nat × Element) :=
  ((rows.map (·.cellsOfRow)).mapIdx fun r cells => cells.map (r, ·)).flatten

/-- The layout of table rows: every cell once, in document order and in its row, each of which
follows those before it. -/
structure IsLayout (rows : List Element) (placed : List PlacedCell) : Prop where
  cells : placed.map (fun p => (p.anchor.row, p.cell)) = cellsInOrder rows
  consecutive : Consecutive rows.length [] placed

theorem IsLayout.row_lt {rows : List Element} {placed : List PlacedCell} (h : IsLayout rows placed)
    {p : PlacedCell} (hp : p ∈ placed) : p.anchor.row < rows.length := by
  have hmem := List.mem_map_of_mem (f := fun p => (p.anchor.row, p.cell)) hp
  rw [h.cells, cellsInOrder, List.mem_flatten] at hmem
  obtain ⟨l, hl, hpl⟩ := hmem
  obtain ⟨r, hr, rfl⟩ := List.mem_mapIdx.1 hl
  obtain ⟨cell, -, heq⟩ := List.mem_map.1 hpl
  have hrow : r = p.anchor.row := congrArg Prod.fst heq
  simpa [hrow] using hr

/-- What some placed cells show at a position: what the first cell that covers it shows there. -/
def shownText (options : GridOptions) (n : Nat) (placed : List PlacedCell) (pos : CellPosition) :
    Text :=
  match placed.find? fun p => p.Covers n pos with
  | some p => DraftGrid.shownAt options (TableGrid.content options p.cell) p.anchor pos
  | none => []

/-- The grid of `n` rows that placed cells show; it ends with the last column of a cell. -/
def TableGrid.showing (options : GridOptions) (n : Nat) (placed : List PlacedCell) : TableGrid :=
  let width := (placed.map endCol).foldl max 0
  { rows := (List.range n).map fun r =>
      (List.range width).map fun c => shownText options n placed ⟨r, c⟩
    width }

/-! ### The draft shows the cells placed so far -/

namespace PlacedCell

theorem one_le_span (e : Element) (name : Text) : 1 ≤ e.span name := by
  unfold Element.span Element.colspanLimit Element.rowspanLimit
  simp only
  split <;> omega

theorem one_le_width (p : PlacedCell) : 1 ≤ p.width :=
  one_le_span _ _

theorem one_le_height {n : Nat} {p : PlacedCell} (h : p.anchor.row < n) : 1 ≤ p.height n := by
  have := one_le_span p.cell "rowspan"
  unfold height
  omega

theorem covers_anchor {n : Nat} {p : PlacedCell} (h : p.anchor.row < n) : p.Covers n p.anchor := by
  have hw := p.one_le_width
  have hh := one_le_height h
  unfold Covers endCol
  omega

@[simp] theorem endInRow_append_singleton (before : List PlacedCell) (p : PlacedCell) :
    endInRow p.anchor.row (before ++ [p]) = p.endCol := by
  simp [endInRow]

theorem endInRow_eq_zero {row : Nat} {before : List PlacedCell}
    (h : ∀ q ∈ before, q.anchor.row < row) : endInRow row before = 0 := by
  have hnone : (before.filter fun q => q.anchor.row = row) = [] := by
    rw [List.filter_eq_nil_iff]
    intro q hq
    have := h q hq
    simp only [decide_eq_true_eq]
    omega
  rw [endInRow, hnone]
  rfl

theorem consecutive_append {n : Nat} {before placed later : List PlacedCell} :
    Consecutive n before (placed ++ later) ↔
      Consecutive n before placed ∧ Consecutive n (before ++ placed) later := by
  induction placed generalizing before with
  | nil => simp [Consecutive]
  | cons p placed ih => simp [Consecutive, ih, and_assoc]

/-- A layout is determined by its cells. -/
theorem Consecutive.unique {n : Nat} {before placed other : List PlacedCell}
    (h : Consecutive n before placed) (h' : Consecutive n before other)
    (hcells : placed.map (fun p => (p.anchor.row, p.cell)) =
      other.map fun p => (p.anchor.row, p.cell)) : placed = other := by
  induction placed generalizing before other with
  | nil => exact (List.map_eq_nil_iff.1 hcells.symm).symm
  | cons p placed ih =>
    obtain _ | ⟨q, other⟩ := other
    · cases hcells
    simp only [List.map_cons, List.cons.injEq, Prod.mk.injEq] at hcells
    obtain ⟨⟨hrow, hcell⟩, htail⟩ := hcells
    obtain ⟨hp, hplaced⟩ := h
    obtain ⟨hq, hother⟩ := h'
    have hcol : p.anchor.col = q.anchor.col := by
      unfold Follows at hp hq
      rw [hrow] at hp
      exact hp.unique hq
    obtain rfl : p = q := by
      obtain ⟨⟨_, _⟩, _⟩ := p
      obtain ⟨⟨_, _⟩, _⟩ := q
      simp_all
    rw [ih hplaced hother htail]

/-- No cell covers the anchor of a later one. -/
theorem Consecutive.find?_anchor {n : Nat} {placed : List PlacedCell} (h : Consecutive n [] placed)
    {p : PlacedCell} (hp : p ∈ placed) (hrow : p.anchor.row < n) :
    (placed.find? fun q => q.Covers n p.anchor) = some p := by
  obtain ⟨before, later, rfl⟩ := List.append_of_mem hp
  obtain ⟨-, hfollows, -⟩ := consecutive_append.1 h
  -- An anchor is a free column, so none of the cells before covers it.
  have hfree : (before.find? fun q => q.Covers n p.anchor) = none := by
    simpa using hfollows.1.2
  simp [List.find?_append, hfree, covers_anchor hrow]

end PlacedCell

theorem IsLayout.unique {rows : List Element} {placed other : List PlacedCell}
    (h : IsLayout rows placed) (h' : IsLayout rows other) : placed = other :=
  h.consecutive.unique h'.consecutive (h.cells.trans h'.cells.symm)

namespace DraftGrid

/-- The invariant of the building of a grid: its entries are what the cells placed so far show, and
its longest row ends with the last of their columns. -/
structure Shows (options : GridOptions) (n : Nat) (grid : DraftGrid) (placed : List PlacedCell) :
    Prop where
  length_eq : grid.length = n
  entry_eq : ∀ pos, entry grid pos = (placed.find? fun p => p.Covers n pos).map fun p =>
    shownAt options (TableGrid.content options p.cell) p.anchor pos
  length_le_iff : ∀ m, (∀ r, (rowAt grid r).length ≤ m) ↔ ∀ p ∈ placed, p.endCol ≤ m

theorem shows_empty (options : GridOptions) (n : Nat) :
    Shows options n (List.replicate n []) [] where
  length_eq := List.length_replicate
  entry_eq pos := by simp [entry, rowAt, List.getElem?_replicate]; split <;> simp
  length_le_iff m := by simp [rowAt, List.getElem?_replicate]; intro r; split <;> simp

/-- Placing a cell keeps the invariant. -/
theorem Shows.place {options : GridOptions} {n : Nat} {grid : DraftGrid} {placed : List PlacedCell}
    (h : Shows options n grid placed) {p : PlacedCell} (hp : p.anchor.row < n) :
    Shows options n
      (DraftGrid.place options (TableGrid.content options p.cell) p.anchor (p.height n) p.width grid)
      (placed ++ [p]) where
  length_eq := by rw [length_place, h.length_eq]
  entry_eq pos := by
    have hfits : p.anchor.row + p.height n ≤ grid.length := by
      rw [h.length_eq, height]
      omega
    rw [entry_place _ _ _ _ _ p.one_le_width hfits, h.entry_eq, List.find?_append, Option.map_or]
    congr 1
    show (if p.Covers n pos then some _ else none) = _
    by_cases hc : p.Covers n pos <;> simp [hc]
  length_le_iff m := by
    have hh := one_le_height hp
    have hfits : p.anchor.row < grid.length := by rwa [h.length_eq]
    rw [List.forall_mem_append, List.forall_mem_singleton, ← h.length_le_iff]
    constructor
    · intro hle
      refine ⟨fun r => ?_, ?_⟩
      · have := hle r
        rw [length_rowAt_place _ _ _ _ _ p.one_le_width] at this
        split at this <;> omega
      · have := hle p.anchor.row
        rw [length_rowAt_place _ _ _ _ _ p.one_le_width, if_pos (by omega)] at this
        exact (le_max_right _ _).trans this
    · rintro ⟨hle, hp⟩ r
      rw [length_rowAt_place _ _ _ _ _ p.one_le_width]
      split
      · exact max_le (hle r) hp
      · exact hle r

/-- A position is free exactly if no cell covers it. -/
theorem Shows.entry_eq_none_iff {options : GridOptions} {n : Nat} {grid : DraftGrid}
    {placed : List PlacedCell} (h : Shows options n grid placed) (pos : CellPosition) :
    entry grid pos = none ↔ ∀ q ∈ placed, ¬ q.Covers n pos := by
  simp [h.entry_eq]

end DraftGrid

/-! ### Placing rows -/

namespace TableGrid

open DraftGrid

/-- Placing the cells of a row keeps the invariant, and each cell follows those before it. -/
theorem placeCells_shows {options : GridOptions} {n row : Nat} (hrow : row < n)
    (cells : List Element) {grid : DraftGrid} {before : List PlacedCell}
    (h : Shows options n grid before) :
    let (grid', placed) := placeCells options row (n - row) cells (endInRow row before) grid
    Shows options n grid' (before ++ placed) ∧ Consecutive n before placed ∧
      placed.map (fun p => (p.anchor.row, p.cell)) = cells.map (row, ·) := by
  induction cells generalizing grid before with
  | nil => simpa [placeCells, Consecutive] using h
  | cons cell cells ih =>
    let p : PlacedCell := ⟨⟨row, freeFrom (grid.rowAt row) (endInRow row before)⟩, cell⟩
    have hfollows : p.Follows n before := by
      have hleast := isLeast_freeFrom (grid.rowAt row) (endInRow row before)
      -- The search goes over the entries of the draft; by the invariant these are the rectangles.
      have hfree : ∀ c, entryAt (grid.rowAt row) c = none ↔ ∀ q ∈ before, ¬ q.Covers n ⟨row, c⟩ :=
        fun c => h.entry_eq_none_iff ⟨row, c⟩
      simp only [hfree] at hleast
      exact hleast
    obtain ⟨hshows, hconsecutive, hcells⟩ := ih (h.place (p := p) hrow)
    rw [show endInRow row (before ++ [p]) = p.endCol from endInRow_append_singleton before p]
      at hshows hconsecutive hcells
    rw [List.append_assoc] at hshows
    exact ⟨hshows, ⟨hfollows, hconsecutive⟩, congrArg ((row, cell) :: ·) hcells⟩

/-- Placing rows keeps the invariant, and each cell follows those before it. -/
theorem placeRows_shows {options : GridOptions} {n : Nat} (rows : List (List Element)) {row : Nat}
    (hn : row + rows.length = n) {grid : DraftGrid} {before : List PlacedCell}
    (h : Shows options n grid before) (hbefore : ∀ q ∈ before, q.anchor.row < row) :
    let (grid', placed) := placeRows options rows row grid
    Shows options n grid' (before ++ placed) ∧ Consecutive n before placed ∧
      placed.map (fun p => (p.anchor.row, p.cell)) =
        (rows.mapIdx fun i cells => cells.map (row + i, ·)).flatten := by
  induction rows generalizing row grid before with
  | nil => simpa [placeRows, Consecutive] using h
  | cons cells rows ih =>
    rw [List.length_cons] at hn
    have hcells := placeCells_shows (by omega : row < n) cells h
    rw [endInRow_eq_zero hbefore, show n - row = rows.length + 1 by omega] at hcells
    simp only [placeRows]
    generalize placeCells options row (rows.length + 1) cells 0 grid = result at hcells ⊢
    obtain ⟨hshows, hconsecutive, hplaced⟩ := hcells
    have hrows : ∀ q ∈ before ++ result.2, q.anchor.row < row + 1 := by
      intro q hq
      rcases List.mem_append.1 hq with hq | hq
      · exact Nat.lt_succ_of_lt (hbefore q hq)
      · have hmem := List.mem_map_of_mem (f := fun p => (p.anchor.row, p.cell)) hq
        rw [hplaced] at hmem
        obtain ⟨cell, -, heq⟩ := List.mem_map.1 hmem
        have : row = q.anchor.row := congrArg Prod.fst heq
        omega
    obtain ⟨hshows', hconsecutive', hplaced'⟩ := ih (by omega) hshows hrows
    rw [List.append_assoc] at hshows'
    refine ⟨hshows', consecutive_append.2 ⟨hconsecutive, hconsecutive'⟩, ?_⟩
    rw [List.map_append, hplaced, hplaced', List.mapIdx_cons, List.flatten_cons]
    simp only [Nat.add_zero, Nat.add_assoc, Nat.add_comm 1]

/-- The grid of a draft is the one that its cells show. -/
theorem ofDraft_eq_showing {options : GridOptions} {n : Nat} {grid : DraftGrid}
    {placed : List PlacedCell} (h : Shows options n grid placed) :
    ofDraft grid = showing options n placed := by
  -- Rows may be shorter than the grid; only the upper bounds of all of them agree.
  have hwidth : (ofDraft grid).width = (placed.map endCol).foldl max 0 := by
    refine eq_of_forall_ge_iff fun m => ?_
    rw [width_ofDraft_le_iff, h.length_le_iff, foldl_max_le_iff]
    simp
  have htext : ∀ pos, (entry grid pos).getD [] = shownText options n placed pos := by
    intro pos
    rw [h.entry_eq, shownText]
    cases placed.find? fun p => p.Covers n pos <;> rfl
  have hrows : (ofDraft grid).rows = (showing options n placed).rows := by
    rw [rows_ofDraft, hwidth, h.length_eq]
    simp only [htext]
    rfl
  calc ofDraft grid = ⟨(ofDraft grid).rows, (ofDraft grid).width⟩ := rfl
    _ = showing options n placed := by rw [hrows, hwidth]; rfl

theorem endCol_le_width (options : GridOptions) (n : Nat) {placed : List PlacedCell}
    {p : PlacedCell} (hp : p ∈ placed) : p.endCol ≤ (showing options n placed).width :=
  ((foldl_max_le_iff _ _ _).1 le_rfl).2 _ (List.mem_map_of_mem hp)

/-- What the grid of placed cells shows inside its bounds. -/
theorem get?_showing {options : GridOptions} {n : Nat} {placed : List PlacedCell}
    {pos : CellPosition} (hrow : pos.row < n) (hcol : pos.col < (showing options n placed).width) :
    (showing options n placed).get? pos = some (shownText options n placed pos) := by
  simp [get?, row?, showing, hrow, show pos.col < (placed.map endCol).foldl max 0 from hcol]

/-- **The grid of table rows.**  There is one layout of the rows, and each cell is reported once, in
document order, where it stands there; the grid shows at each position what the first cell that
covers it shows, and so every cell is seen at its anchor. -/
theorem ofRows_layout (options : GridOptions) (rows : List Element) :
    let (grid, placed) := ofRows options rows
    (∀ other, IsLayout rows other ↔ other = placed) ∧
      grid = showing options rows.length placed ∧
      placed.map (fun p => grid.get? p.anchor) = placed.map fun p => some (content options p.cell) := by
  have hn : 0 + (rows.map (·.cellsOfRow)).length = rows.length := by simp
  have hrows := placeRows_shows (rows.map (·.cellsOfRow)) hn (shows_empty options rows.length)
    (by simp)
  simp only [ofRows]
  generalize placeRows options (rows.map (·.cellsOfRow)) 0 (List.replicate rows.length []) =
    result at hrows ⊢
  obtain ⟨hshows, hconsecutive, hcells⟩ := hrows
  rw [List.nil_append] at hshows
  have hlayout : IsLayout rows result.2 := ⟨by simpa [cellsInOrder] using hcells, hconsecutive⟩
  have hgrid := ofDraft_eq_showing hshows
  refine ⟨fun other => ⟨fun hother => hother.unique hlayout, fun h => h ▸ hlayout⟩, hgrid, ?_⟩
  refine List.map_congr_left fun p hp => ?_
  have hrow := hlayout.row_lt hp
  have hcol : p.anchor.col < (showing options rows.length result.2).width :=
    lt_of_lt_of_le (Nat.lt_add_of_pos_right p.one_le_width) (endCol_le_width options _ hp)
  rw [hgrid, get?_showing hrow hcol, shownText, hconsecutive.find?_anchor hp hrow]
  simp [shownAt]

/-- A cell that reaches into the next row moves the cells of that row to the right. -/
example :
    let cell := fun (attrs : List (Text × Text)) (content : Text) =>
      Node.element ['t', 'd'] attrs [.text content]
    let row := fun cells => (⟨['t', 'r'], [], cells, []⟩ : Element)
    (ofRows {} [row [cell [("rowspan", "2")] ['a'], cell [("colspan", "2")] ['b']],
      row [cell [] ['c']]]).1.rows = [[['a'], ['b'], []], [[], ['c'], []]] := by
  cbv

end TableGrid

end Playbill
