import Playbill.Proofs.Table.Walk

/-!
# The size of grids

A grid is dense, and its cells make it as wide as it is.

* `DraftGrid.search?`: the search for a free column in single steps; `search?_eq_freeFrom`: it ends.
* `PlacedCell.Consecutive.exists_covers`: in the row of an anchor, every column before it lies in an
  earlier rectangle; `Consecutive.endCol_le_sum`: so no cell ends after as many columns as all cells
  have together.
* `PlacedCell.Consecutive.isChain_before`: anchors follow one another row by row.
* `TableGrid.Rectangular`, `TableGrid.SpannedBy`: rows of one length, and the width that cells give
  them.
* `ofRows_rectangular`: the grid of table rows has both.
-/

namespace Playbill

/-! ### The search for a free column -/

namespace DraftGrid

/-- The search for a free column goes from one column to the next; `none` if its steps run out. -/
def search? (row : List (Option Text)) : Nat → Nat → Option Nat
  | 0, _ => none
  | steps + 1, col => if (entryAt row col).isSome then search? row steps (col + 1) else some col

/-- A free column stays the first one when the search has passed a column before it. -/
theorem freeFrom_succ {row : List (Option Text)} {col : Nat} (h : (entryAt row col).isSome) :
    freeFrom row (col + 1) = freeFrom row col := by
  have hnext := isLeast_freeFrom row (col + 1)
  have hhere := isLeast_freeFrom row col
  have hne : freeFrom row col ≠ col := by
    intro heq
    have hfree := hhere.1.2
    rw [heq] at hfree
    simp [hfree] at h
  have hle := hhere.1.1
  apply le_antisymm
  · exact hnext.2 ⟨by omega, hhere.1.2⟩
  · exact hhere.2 ⟨by have := hnext.1.1; omega, hnext.1.2⟩

theorem search?_of_lt {row : List (Option Text)} {steps col : Nat}
    (h : freeFrom row col < col + steps) : search? row steps col = some (freeFrom row col) := by
  induction steps generalizing col with
  | zero =>
    have := le_freeFrom row col
    omega
  | succ steps ih =>
    rw [search?]
    by_cases hentry : (entryAt row col).isSome
    · rw [if_pos hentry, ih (by rw [freeFrom_succ hentry]; omega), freeFrom_succ hentry]
    · have hfree : entryAt row col = none := by simpa using hentry
      rw [if_neg hentry, le_antisymm (freeFrom_le le_rfl hfree) (le_freeFrom row col)]

/-- The search ends, at the latest one column after the row. -/
theorem search?_eq_freeFrom (row : List (Option Text)) (col : Nat) :
    search? row (row.length + 1) col = some (freeFrom row col) := by
  apply search?_of_lt
  have hend : entryAt row (col + row.length) = none := by
    simp [entryAt]
  have := freeFrom_le (Nat.le_add_right col row.length) hend
  omega

/-- The greatest of some numbers and a start is one of them. -/
theorem foldl_max_mem (ns : List Nat) (start : Nat) :
    ns.foldl max start = start ∨ ns.foldl max start ∈ ns := by
  induction ns generalizing start with
  | nil => exact .inl rfl
  | cons n ns ih =>
    rw [List.foldl_cons]
    rcases ih (max start n) with heq | hmem
    · rw [heq]
      rcases max_choice start n with h | h
      · exact .inl h
      · exact .inr (by simp [h])
    · exact .inr (List.mem_cons_of_mem n hmem)

end DraftGrid

/-! ### Columns before an anchor -/

namespace PlacedCell

variable {n : Nat} {before placed later : List PlacedCell} {p : PlacedCell}

theorem Consecutive.follows (h : Consecutive n [] (before ++ p :: later)) : p.Follows n before :=
  (consecutive_append.1 h).2.1

/-- In the row of an anchor, every column before it lies in the rectangle of an earlier cell. -/
theorem Consecutive.exists_covers (h : Consecutive n [] placed)
    (hrows : ∀ q ∈ placed, q.anchor.row < n) (hplaced : placed = before ++ p :: later) {col : Nat}
    (hcol : col < p.anchor.col) : ∃ q ∈ before, q.Covers n ⟨p.anchor.row, col⟩ := by
  induction hlength : before.length using Nat.strong_induction_on generalizing before p later with
  | _ k ih =>
    have hfollows : p.Follows n before := by
      rw [hplaced] at h
      exact h.follows
    by_cases hend : endInRow p.anchor.row before ≤ col
    · -- The search passed this column, so it was taken.
      by_contra hfree
      push Not at hfree
      have hle := hfollows.2 ⟨hend, hfree⟩
      omega
    · cases hlast : (before.filter fun q => q.anchor.row = p.anchor.row).getLast? with
      | none => simp [endInRow, hlast] at hend
      | some q =>
        have hq := List.mem_of_getLast? hlast
        obtain ⟨hmem, hrow⟩ : q ∈ before ∧ q.anchor.row = p.anchor.row := by
          simpa using hq
        have hright : col < q.endCol := by
          simpa [endInRow, hlast] using hend
        by_cases hleft : q.anchor.col ≤ col
        · -- The column lies in the neighbour on the left itself.
          have hheight := one_le_height (hrows q (by simp [hplaced, hmem]))
          refine ⟨q, hmem, ⟨?_, ?_⟩, hleft, hright⟩
          · simp [hrow]
          · simp only
            omega
        · obtain ⟨first, rest, rfl⟩ := List.append_of_mem hmem
          have hshorter : first.length < k := by
            rw [← hlength]
            simp
          have hneighbour : placed = first ++ q :: (rest ++ p :: later) := by
            simp [hplaced]
          obtain ⟨q', hq', hcovers⟩ := ih first.length hshorter hneighbour (by omega) rfl
          exact ⟨q', by simp [hq'], hrow ▸ hcovers⟩

/-- Cells that share out some columns are together as wide as these are many. -/
theorem card_le_sum_width {cols : Finset Nat} {cells : List PlacedCell}
    (h : ∀ col ∈ cols, ∃ q ∈ cells, q.anchor.col ≤ col ∧ col < q.endCol) :
    cols.card ≤ (cells.map width).sum := by
  induction cells generalizing cols with
  | nil =>
    have hempty : cols = ∅ := by
      apply Finset.eq_empty_of_forall_notMem
      intro col hcol
      simpa using h col hcol
    simp [hempty]
  | cons q cells ih =>
    have hothers : (cols \ Finset.Ico q.anchor.col q.endCol).card ≤ (cells.map width).sum := by
      apply ih
      intro col hcol
      obtain ⟨hmem, hout⟩ := Finset.mem_sdiff.1 hcol
      rw [Finset.mem_Ico] at hout
      obtain ⟨q', hq', hcovers⟩ := h col hmem
      rcases List.mem_cons.1 hq' with rfl | hq'
      · exact absurd hcovers hout
      · exact ⟨q', hq', hcovers⟩
    have hself : (Finset.Ico q.anchor.col q.endCol).card = q.width := by
      simp [endCol]
    calc cols.card
        ≤ (cols \ Finset.Ico q.anchor.col q.endCol).card +
            (Finset.Ico q.anchor.col q.endCol).card := Finset.card_le_card_sdiff_add_card
      _ ≤ (cells.map width).sum + q.width := by omega
      _ = ((q :: cells).map width).sum := by rw [List.map_cons, List.sum_cons, Nat.add_comm]

/-- A cell ends within as many columns as all cells have together. -/
theorem Consecutive.endCol_le_sum (h : Consecutive n [] placed)
    (hrows : ∀ q ∈ placed, q.anchor.row < n) (hp : p ∈ placed) :
    p.endCol ≤ (placed.map width).sum := by
  obtain ⟨before, later, hplaced⟩ := List.append_of_mem hp
  have hbefore : (Finset.range p.anchor.col).card ≤ (before.map width).sum := by
    apply card_le_sum_width
    intro col hcol
    obtain ⟨q, hq, -, hcovers⟩ := h.exists_covers hrows hplaced (Finset.mem_range.1 hcol)
    exact ⟨q, hq, hcovers⟩
  rw [Finset.card_range] at hbefore
  rw [hplaced, endCol]
  simp only [List.map_append, List.map_cons, List.sum_append, List.sum_cons]
  omega

/-! ### The order of anchors -/

instance : Trans CellPosition.Before CellPosition.Before CellPosition.Before where
  trans h h' := by
    unfold CellPosition.Before at *
    omega

/-- If the rows do not go back, each anchor comes before the next. -/
theorem Consecutive.isChain_before (h : Consecutive n before placed)
    (hrows : (placed.map (·.anchor.row)).Pairwise (· ≤ ·)) :
    (placed.map (·.anchor)).IsChain CellPosition.Before := by
  induction placed generalizing before with
  | nil => exact .nil
  | cons p placed ih =>
    cases placed with
    | nil => exact .singleton _
    | cons q placed =>
      obtain ⟨-, hplaced⟩ := h
      have hnext := ih hplaced (List.pairwise_cons.1 hrows).2
      refine .cons_cons ?_ hnext
      show p.anchor.Before q.anchor
      have hle : p.anchor.row ≤ q.anchor.row := (List.pairwise_cons.1 hrows).1 _ (by simp)
      by_cases hrow : p.anchor.row = q.anchor.row
      · have hend := hplaced.1.1.1
        rw [← hrow, endInRow_append_singleton] at hend
        have hwidth := p.one_le_width
        rw [endCol] at hend
        exact .inr ⟨hrow, by omega⟩
      · exact .inl (by omega)

end PlacedCell

open PlacedCell

theorem pairwise_cellsInOrder (rows : List Element) :
    (cellsInOrder rows).Pairwise fun c d => c.1 ≤ d.1 := by
  rw [cellsInOrder, List.pairwise_flatten]
  constructor
  · intro cells hcells
    obtain ⟨r, hr, rfl⟩ := List.mem_mapIdx.1 hcells
    rw [List.pairwise_map]
    exact List.pairwise_of_forall fun _ _ => le_rfl
  · rw [List.pairwise_iff_getElem]
    intro r r' hr hr' hlt c hc d hd
    rw [List.getElem_mapIdx, List.mem_map] at hc hd
    obtain ⟨_, -, rfl⟩ := hc
    obtain ⟨_, -, rfl⟩ := hd
    exact hlt.le

theorem map_snd_cellsInOrder (rows : List Element) :
    (cellsInOrder rows).map Prod.snd = rows.flatMap (·.cellsOfRow) := by
  rw [cellsInOrder, List.map_flatten, List.flatMap]
  congr 1
  apply List.ext_getElem
  · simp
  · intro r _ _
    simp [Function.comp_def]

namespace IsLayout

variable {rows : List Element} {placed : List PlacedCell}

theorem pairwise_row (h : IsLayout rows placed) :
    (placed.map (·.anchor.row)).Pairwise (· ≤ ·) := by
  have hmap : placed.map (·.anchor.row) = (cellsInOrder rows).map Prod.fst := by
    rw [← h.cells, List.map_map]
    rfl
  rw [hmap, List.pairwise_map]
  exact pairwise_cellsInOrder rows

theorem map_cell (h : IsLayout rows placed) :
    placed.map (·.cell) = rows.flatMap (·.cellsOfRow) := by
  rw [← map_snd_cellsInOrder, ← h.cells, List.map_map]
  rfl

end IsLayout

namespace TableGrid

open DraftGrid (foldl_max_le_iff foldl_max_mem freeFrom search? search?_eq_freeFrom)

/-- A grid has rows of one length: a position has a text exactly inside its bounds, and a column is
what its rows have there. -/
structure Rectangular (m : TableGrid) : Prop where
  length_row : ∀ row ∈ m.rows, row.length = m.width
  get : ∀ pos, (m.get? pos).isSome ↔ pos.row < m.height ∧ pos.col < m.width
  column : ∀ col, (m.column? col).isSome ↔ col < m.width
  get_column : ∀ col texts, m.column? col = some texts →
    texts.map some = (List.range m.height).map fun row => m.get? ⟨row, col⟩

/-- The width of a grid is the last column that one of some cells reaches, and no more than all of
them have together. -/
structure SpannedBy (m : TableGrid) (placed : List PlacedCell) : Prop where
  empty : placed = [] → m.width = 0
  greatest : placed ≠ [] → IsGreatest {col | ∃ p ∈ placed, p.endCol = col} m.width
  le_sum : m.width ≤ (placed.map (·.width)).sum

section

variable (options : GridOptions) (n : Nat) (placed : List PlacedCell)

@[simp] theorem height_showing : (showing options n placed).height = n := by
  simp [height, showing]

theorem get?_showing_eq (pos : CellPosition) :
    (showing options n placed).get? pos =
      if pos.row < n ∧ pos.col < (showing options n placed).width then
        some (shownText options n placed pos) else none := by
  by_cases hrow : pos.row < n
  · by_cases hcol : pos.col < (showing options n placed).width
    · rw [if_pos ⟨hrow, hcol⟩, get?_showing hrow hcol]
    · have hout : (placed.map endCol).foldl max 0 ≤ pos.col := Nat.not_lt.1 hcol
      rw [if_neg fun h => hcol h.2]
      simp [get?, row?, showing, hrow, hout]
  · rw [if_neg fun h => hrow h.1]
    simp [get?, row?, showing, Nat.not_lt.1 hrow]

theorem column?_showing_eq (col : Nat) :
    (showing options n placed).column? col =
      if col < (showing options n placed).width then
        some ((List.range n).map fun row => shownText options n placed ⟨row, col⟩) else none := by
  unfold column?
  split_ifs with hcol
  · have hin : col < (placed.map endCol).foldl max 0 := hcol
    simp [showing, hin]
  · rfl

theorem rectangular_showing : (showing options n placed).Rectangular where
  length_row row hrow := by
    obtain ⟨r, -, rfl⟩ := List.mem_map.1 hrow
    simp [showing]
  get pos := by
    rw [get?_showing_eq, height_showing]
    split_ifs with h <;> simp [h]
  column col := by
    rw [column?_showing_eq]
    split_ifs with h <;> simp [h]
  get_column col texts htexts := by
    rw [column?_showing_eq] at htexts
    split_ifs at htexts with hcol
    obtain rfl := Option.some.inj htexts
    rw [height_showing, List.map_map]
    apply List.map_congr_left
    intro row hrow
    rw [get?_showing (List.mem_range.1 hrow) hcol]
    rfl

/-- Some cell reaches the last column. -/
theorem exists_endCol_eq_width (hne : placed ≠ []) :
    ∃ p ∈ placed, p.endCol = (showing options n placed).width := by
  rcases foldl_max_mem (placed.map endCol) 0 with hzero | hmem
  · obtain ⟨p, rest, hplaced⟩ := List.exists_cons_of_ne_nil hne
    have hle : p.endCol ≤ (placed.map endCol).foldl max 0 :=
      endCol_le_width options n (by simp [hplaced])
    have hwidth := p.one_le_width
    rw [hzero, endCol] at hle
    omega
  · exact List.mem_map.1 hmem

theorem spannedBy_showing (h : Consecutive n [] placed) (hrows : ∀ p ∈ placed, p.anchor.row < n) :
    (showing options n placed).SpannedBy placed where
  empty hnil := by
    subst hnil
    rfl
  greatest hne := by
    refine ⟨exists_endCol_eq_width options n placed hne, ?_⟩
    rintro _ ⟨p, hp, rfl⟩
    exact endCol_le_width options n hp
  le_sum := by
    have hends : ∀ col ∈ placed.map endCol, col ≤ (placed.map (·.width)).sum := by
      rw [List.forall_mem_map]
      exact fun p hp => h.endCol_le_sum hrows hp
    exact (foldl_max_le_iff _ _ _).2 ⟨Nat.zero_le _, hends⟩

end

/-- The grid of table rows is what their layout shows. -/
theorem isLayout_ofRows (options : GridOptions) (rows : List Element) :
    let (m, placed) := ofRows options rows
    IsLayout rows placed ∧ m = showing options rows.length placed := by
  have hn : 0 + (rows.map (·.cellsOfRow)).length = rows.length := by simp
  have hrows := placeRows_shows (rows.map (·.cellsOfRow)) hn
    (DraftGrid.shows_empty options rows.length) (by simp)
  simp only [ofRows]
  generalize placeRows options (rows.map (·.cellsOfRow)) 0 (List.replicate rows.length []) =
    result at hrows ⊢
  obtain ⟨hshows, hconsecutive, hcells⟩ := hrows
  rw [List.nil_append] at hshows
  exact ⟨⟨by simpa [cellsInOrder] using hcells, hconsecutive⟩, ofDraft_eq_showing hshows⟩

/-- **The size of the grid of table rows.**  It has as many rows as were given and all of one
length; the cells of the rows stand at positions that follow one another row by row; the last
column is the last one of a cell, and there are no more columns than all cells have together; and
every search for a free column ends. -/
theorem ofRows_rectangular (options : GridOptions) (rows : List Element) :
    let (m, placed) := ofRows options rows
    m.height = rows.length ∧ m.Rectangular ∧ m.SpannedBy placed ∧
      placed.map (·.cell) = rows.flatMap (·.cellsOfRow) ∧
      (placed.map (·.anchor)).Pairwise CellPosition.Before ∧
      ∀ (row : List (Option Text)) (col : Nat),
        search? row (row.length + 1) col = some (freeFrom row col) := by
  have hlayout := isLayout_ofRows options rows
  generalize ofRows options rows = result at hlayout ⊢
  obtain ⟨m, placed⟩ := result
  obtain ⟨hlayout, rfl⟩ := hlayout
  have hrows : ∀ p ∈ placed, p.anchor.row < rows.length := fun p hp => hlayout.row_lt hp
  refine ⟨height_showing _ _ _, rectangular_showing _ _ _,
    spannedBy_showing _ _ _ hlayout.consecutive hrows, hlayout.map_cell, ?_,
    search?_eq_freeFrom⟩
  rw [← List.isChain_iff_pairwise]
  exact hlayout.consecutive.isChain_before hlayout.pairwise_row

end TableGrid

end Playbill
