import Mathlib.Order.Bounds.Basic
import Playbill.Table.Grid

/-!
# Writing spans into a draft

What the operations on a draft do to its entries.  An entry is `none` while its position is free.

* `DraftGrid.entryAt`, `DraftGrid.entry`: the entry of a row and of a grid at a position.
* `entryAt_writeRow`, `entry_place`: the first value written at a position stays there.
* `isLeast_freeFrom`: the search for a free column finds the least one.
* `width_ofDraft_le_iff`, `rows_ofDraft`: the finished grid of a draft.
-/

namespace Playbill.DraftGrid

/-- The entry of a row at a column; past its end a row is free. -/
def entryAt (row : List (Option Text)) (col : Nat) : Option Text :=
  row[col]?.join

/-- The entry of a grid at a position. -/
def entry (grid : DraftGrid) (pos : CellPosition) : Option Text :=
  entryAt (grid.rowAt pos.row) pos.col

@[simp] theorem entryAt_nil (col : Nat) : entryAt [] col = none := by
  simp [entryAt]

@[simp] theorem entryAt_cons_zero (e : Option Text) (row : List (Option Text)) :
    entryAt (e :: row) 0 = e := by
  simp [entryAt]

@[simp] theorem entryAt_cons_succ (e : Option Text) (row : List (Option Text)) (col : Nat) :
    entryAt (e :: row) (col + 1) = entryAt row col := by
  simp [entryAt]

/-! ### Rows -/

theorem length_writeRow (row : List (Option Text)) (col : Nat) (values : List Text) :
    (writeRow row col values).length =
      if values = [] then row.length else max row.length (col + values.length) := by
  fun_induction writeRow row col values with
  | case1 row col => simp
  | case2 value values ih => grind
  | case3 row value values ih => grind
  | case4 row kept value values ih => grind
  | case5 col values hne ih => grind
  | case6 entry row col values hne ih => grind

/-- A written value is seen where the row was free. -/
theorem entryAt_writeRow (row : List (Option Text)) (col : Nat) (values : List Text) (c : Nat) :
    entryAt (writeRow row col values) c =
      (entryAt row c).or (if col ≤ c then values[c - col]? else none) := by
  fun_induction writeRow row col values generalizing c with
  | case1 row col => simp
  | case2 value values ih => cases c <;> simp [ih]
  | case3 row value values ih => cases c <;> simp [ih]
  | case4 row kept value values ih => cases c <;> simp [ih]
  | case5 col values hne ih => cases c <;> simp [ih]
  | case6 entry row col values hne ih => cases c <;> simp [ih]

theorem entryAt_freeFrom (row : List (Option Text)) (col : Nat) :
    entryAt row (freeFrom row col) = none := by
  fun_induction freeFrom row col <;> simp_all

theorem le_freeFrom (row : List (Option Text)) (col : Nat) : col ≤ freeFrom row col := by
  fun_induction freeFrom row col <;> omega

theorem freeFrom_le {row : List (Option Text)} {col c : Nat} (hc : col ≤ c)
    (hfree : entryAt row c = none) : freeFrom row col ≤ c := by
  fun_induction freeFrom row col generalizing c with
  | case1 col => exact hc
  | case2 row => exact hc
  | case3 kept row ih =>
    cases c with
    | zero => simp at hfree
    | succ c => exact Nat.succ_le_succ (ih (Nat.zero_le c) (by simpa using hfree))
  | case4 entry row col ih =>
    cases c with
    | zero => omega
    | succ c => exact Nat.succ_le_succ (ih (by omega) (by simpa using hfree))

/-- The search for a free column finds the least one. -/
theorem isLeast_freeFrom (row : List (Option Text)) (col : Nat) :
    IsLeast {c | col ≤ c ∧ entryAt row c = none} (freeFrom row col) :=
  ⟨⟨le_freeFrom row col, entryAt_freeFrom row col⟩, fun _ hc => freeFrom_le hc.1 hc.2⟩

/-! ### Grids -/

/-- What a cell shows at a position of its rectangle: its content at its anchor, in its first column
or row if that is duplicated, and everywhere if both are. -/
def shownAt (options : GridOptions) (content : Text) (anchor pos : CellPosition) : Text :=
  if pos = anchor ∨ (pos.col = anchor.col ∧ options.duplicateRowspan) ∨
      (pos.row = anchor.row ∧ options.duplicateColspan) ∨
      (options.duplicateRowspan ∧ options.duplicateColspan) then content else []

theorem length_rowValues (options : GridOptions) (content : Text) {width : Nat} (first : Bool)
    (hw : 1 ≤ width) : (rowValues options content width first).length = width := by
  simp only [rowValues, List.length_cons, List.length_replicate]
  omega

theorem getElem?_rowValues (options : GridOptions) (content : Text) {anchor pos : CellPosition}
    {width : Nat} (hr : anchor.row ≤ pos.row) (hc : anchor.col ≤ pos.col)
    (hw : pos.col < anchor.col + width) :
    (rowValues options content width (pos.row - anchor.row == 0))[pos.col - anchor.col]? =
      some (shownAt options content anchor pos) := by
  obtain ⟨row, col⟩ := anchor
  obtain ⟨r, c⟩ := pos
  obtain ⟨y, rfl⟩ := Nat.exists_eq_add_of_le hr
  obtain ⟨x, rfl⟩ := Nat.exists_eq_add_of_le hc
  simp only [Nat.add_sub_cancel_left]
  cases x with
  | zero =>
    by_cases hy : y = 0 <;> by_cases ho : options.duplicateRowspan <;>
      simp [rowValues, shownAt, hy, ho]
  | succ x =>
    have hx : x < width - 1 := by simp only at hw; omega
    rw [rowValues, List.getElem?_cons_succ, List.getElem?_replicate, if_pos hx]
    by_cases hy : y = 0 <;> by_cases ho : options.duplicateColspan <;> simp [shownAt, hy, ho]

theorem length_place (options : GridOptions) (content : Text) (anchor : CellPosition)
    (height width : Nat) (grid : DraftGrid) :
    (place options content anchor height width grid).length = grid.length := by
  induction height with
  | zero => rfl
  | succ height ih =>
    rw [place, List.range_succ, List.foldl_append]
    simpa [place] using ih

theorem rowAt_modify (grid : DraftGrid) (row r : Nat) (f : List (Option Text) → List (Option Text)) :
    rowAt (grid.modify row f) r =
      if r = row ∧ r < grid.length then f (rowAt grid r) else rowAt grid r := by
  unfold rowAt
  rw [List.getElem?_modify]
  by_cases h : row = r
  · subst h
    by_cases hl : row < grid.length
    · simp [hl]
    · simp [hl]
  · simp [h, Ne.symm h]

/-- A cell changes the rows of its rectangle and no others. -/
theorem rowAt_place (options : GridOptions) (content : Text) (anchor : CellPosition)
    (height width : Nat) (grid : DraftGrid) (r : Nat) :
    rowAt (place options content anchor height width grid) r =
      if (anchor.row ≤ r ∧ r < anchor.row + height) ∧ r < grid.length then
        writeRow (rowAt grid r) anchor.col
          (rowValues options content width (r - anchor.row == 0))
      else rowAt grid r := by
  induction height with
  | zero =>
    rw [if_neg (by omega)]
    rfl
  | succ height ih =>
    -- The lowest row is written last, after the same cell without it.
    have hstep : place options content anchor (height + 1) width grid =
        (place options content anchor height width grid).modify (anchor.row + height) fun row =>
          writeRow row anchor.col (rowValues options content width (height == 0)) := by
      rw [place, List.range_succ, List.foldl_append]
      rfl
    rw [hstep, rowAt_modify, length_place, ih]
    by_cases hr : r = anchor.row + height
    · subst hr
      by_cases hl : anchor.row + height < grid.length
      · rw [if_pos ⟨rfl, hl⟩, if_neg (by omega), if_pos (by omega), Nat.add_sub_cancel_left]
      · rw [if_neg (by omega), if_neg (by omega), if_neg (by omega)]
    · rw [if_neg (by omega)]
      exact if_congr (by omega) rfl rfl

theorem length_rowAt_place (options : GridOptions) (content : Text) (anchor : CellPosition)
    {height width : Nat} (grid : DraftGrid) (r : Nat) (hw : 1 ≤ width) :
    (rowAt (place options content anchor height width grid) r).length =
      if (anchor.row ≤ r ∧ r < anchor.row + height) ∧ r < grid.length then
        max (rowAt grid r).length (anchor.col + width)
      else (rowAt grid r).length := by
  rw [rowAt_place, apply_ite List.length, length_writeRow, length_rowValues _ _ _ hw]
  simp [rowValues]

/-- A cell is seen in its rectangle where the grid was free. -/
theorem entry_place (options : GridOptions) (content : Text) (anchor : CellPosition)
    {height width : Nat} (grid : DraftGrid) (pos : CellPosition) (hw : 1 ≤ width)
    (hh : anchor.row + height ≤ grid.length) :
    entry (place options content anchor height width grid) pos =
      (entry grid pos).or
        (if (anchor.row ≤ pos.row ∧ pos.row < anchor.row + height) ∧
            anchor.col ≤ pos.col ∧ pos.col < anchor.col + width then
          some (shownAt options content anchor pos)
        else none) := by
  unfold entry
  rw [rowAt_place]
  by_cases hr : anchor.row ≤ pos.row ∧ pos.row < anchor.row + height
  · rw [if_pos ⟨hr, by omega⟩, entryAt_writeRow]
    by_cases hc : anchor.col ≤ pos.col ∧ pos.col < anchor.col + width
    · rw [if_pos hc.1, if_pos ⟨hr, hc⟩, getElem?_rowValues _ _ hr.1 hc.1 hc.2]
    · have hout : (if anchor.col ≤ pos.col then
          (rowValues options content width (pos.row - anchor.row == 0))[pos.col - anchor.col]?
          else none) = none := by
        rw [ite_eq_right_iff, List.getElem?_eq_none_iff, length_rowValues _ _ _ hw]
        omega
      rw [hout, if_neg (fun h => hc h.2)]
  · rw [if_neg (fun h => hr h.1), if_neg (fun h => hr h.1), Option.or_none]

/-! ### The finished grid -/

theorem foldl_max_le_iff (ns : List Nat) (start m : Nat) :
    ns.foldl max start ≤ m ↔ start ≤ m ∧ ∀ n ∈ ns, n ≤ m := by
  induction ns generalizing start with
  | nil => simp
  | cons n ns ih => simp [ih, and_assoc]

/-- The grid of a draft is as wide as the longest row. -/
theorem width_ofDraft_le_iff (grid : DraftGrid) (m : Nat) :
    (TableGrid.ofDraft grid).width ≤ m ↔ ∀ r, (rowAt grid r).length ≤ m := by
  simp only [TableGrid.ofDraft, foldl_max_le_iff, List.forall_mem_map, Nat.zero_le, true_and]
  constructor
  · intro h r
    by_cases hr : r < grid.length
    · simpa [rowAt, hr] using h grid[r] (List.getElem_mem hr)
    · simp [rowAt, Nat.not_lt.1 hr]
  · intro h row hrow
    obtain ⟨r, hr, rfl⟩ := List.getElem_of_mem hrow
    simpa [rowAt, hr] using h r

theorem filled_eq_map_range {row : List (Option Text)} {width : Nat} (h : row.length ≤ width) :
    row.map (·.getD []) ++ List.replicate (width - row.length) [] =
      (List.range width).map fun c => (entryAt row c).getD [] := by
  refine List.ext_getElem? fun c => ?_
  rw [List.getElem?_map, List.getElem?_append, List.length_map, List.getElem?_map,
    List.getElem?_replicate]
  by_cases hc : c < row.length
  · rw [if_pos hc, List.getElem?_range (by omega), List.getElem?_eq_getElem hc]
    simp [entryAt, hc]
  · rw [if_neg hc]
    by_cases hw : c < width
    · rw [List.getElem?_range hw, if_pos (by omega)]
      simp [entryAt, Nat.not_lt.1 hc]
    · rw [if_neg (by omega), List.getElem?_eq_none (by simpa using hw)]
      rfl

/-- The grid of a draft shows its entries, and nothing where the draft is free. -/
theorem rows_ofDraft (grid : DraftGrid) :
    (TableGrid.ofDraft grid).rows = (List.range grid.length).map fun r =>
      (List.range (TableGrid.ofDraft grid).width).map fun c => (entry grid ⟨r, c⟩).getD [] := by
  refine List.ext_getElem (by simp [TableGrid.ofDraft]) fun r hr _ => ?_
  have hl : r < grid.length := by simpa [TableGrid.ofDraft] using hr
  have hw : grid[r].length ≤ (TableGrid.ofDraft grid).width := by
    simpa [rowAt, hl] using (width_ofDraft_le_iff grid _).1 le_rfl r
  have hentry : ∀ c, entry grid ⟨r, c⟩ = entryAt grid[r] c := fun c => by simp [entry, rowAt, hl]
  rw [List.getElem_map, List.getElem_range]
  simp only [hentry]
  rw [← filled_eq_map_range hw]
  simp [TableGrid.ofDraft]

end Playbill.DraftGrid
