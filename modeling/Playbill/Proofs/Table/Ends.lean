import Playbill.Proofs.Table.Walk

/-!
# Ends of windows

Membership in a window subtracts the offset under a guard, while the ends of a window are sums, so
the two meet the end of the words in different ways.

* `TableWindow.Spans`: the positions of an axis, over the integers.
* `TableWindow.EndsAt`: the last position of an axis with a limit.
* `TableWindow.axisEnd_eq_last_iff`, `TableWindow.axisEnd_eq_beyond_iff`: which ends are reported.
* `TableWindow.contains_iff_spans`: a shifted position lies inside a window exactly if both of its
  coordinates are positions of their axes.
* `TableWindow.contains_and_ends`: membership and ends agree, but for an axis that ends at the last
  word.
-/

namespace Playbill

namespace TableWindow

/-- An integer is a position of an axis: a word from the offset on, as far as the limit reaches. -/
structure Spans (offset : Nat) (limit : Option Nat) (position : Int) : Prop where
  nonneg : 0 ≤ position
  lt_wordLimit : position < wordLimit
  offset_le : offset ≤ position
  lt_limit : ∀ l ∈ limit, position < offset + l

/-- A word is the last position of an axis with a limit. -/
def EndsAt (offset : Nat) (limit : Option Nat) (last : Nat) : Prop :=
  last < wordLimit ∧ ∃ l ∈ limit, 0 < l ∧ last = offset + l - 1

variable {offset n last : Nat} {limit : Option Nat}

/-! ### Positions -/

theorem shift?_eq_some_iff {distance : Int} {m : Nat} :
    shift? n distance = some m ↔ (n : Int) + distance = m ∧ m < wordLimit := by
  simp only [shift?]
  by_cases hword : 0 ≤ (n : Int) + distance ∧ (n : Int) + distance < wordLimit
  · rw [if_pos hword, Option.some.injEq]
    omega
  · rw [if_neg hword]
    refine iff_of_false (Option.some_ne_none m).symm fun h => hword ?_
    omega

theorem spans_iff {position : Int} :
    Spans offset limit position ↔
      ∃ m : Nat, position = m ∧ m < wordLimit ∧ axisHolds m offset limit := by
  constructor
  · intro h
    obtain ⟨m, rfl⟩ := Int.eq_ofNat_of_zero_le h.nonneg
    refine ⟨m, rfl, Int.ofNat_lt.1 h.lt_wordLimit, axisHolds_iff.2 ⟨Int.ofNat_le.1 h.offset_le, ?_⟩⟩
    intro l hl
    have hoffset := h.offset_le
    have hlimit := h.lt_limit l hl
    omega
  · rintro ⟨m, rfl, hword, hholds⟩
    obtain ⟨hoffset, hlimit⟩ := axisHolds_iff.1 hholds
    refine ⟨Int.natCast_nonneg m, Int.ofNat_lt.2 hword, Int.ofNat_le.2 hoffset, fun l hl => ?_⟩
    have hroom := hlimit l hl
    omega

/-- A shifted position lies inside a window if both of its coordinates are positions. -/
theorem contains_iff_spans (w : TableWindow) {cell : CellPosition} {rows cols : Int} :
    w.contains cell rows cols ↔
      Spans w.rowOffset w.rowLimit (cell.row + rows) ∧
        Spans w.colOffset w.colLimit (cell.col + cols) := by
  rw [contains_iff, spans_iff, spans_iff]
  simp only [shift?_eq_some_iff]
  constructor
  · rintro ⟨row, col, ⟨hrow, hrowWord⟩, ⟨hcol, hcolWord⟩, hrowHolds, hcolHolds⟩
    exact ⟨⟨row, hrow, hrowWord, hrowHolds⟩, ⟨col, hcol, hcolWord, hcolHolds⟩⟩
  · rintro ⟨⟨row, hrow, hrowWord, hrowHolds⟩, ⟨col, hcol, hcolWord, hcolHolds⟩⟩
    exact ⟨row, col, ⟨hrow, hrowWord⟩, ⟨hcol, hcolWord⟩, hrowHolds, hcolHolds⟩

/-! ### Ends -/

/-- The positions of an axis that ends are those from its offset to its end. -/
theorem EndsAt.spans_iff (h : EndsAt offset limit last) :
    Spans offset limit (n + 0) ↔ offset ≤ n ∧ n ≤ last := by
  obtain ⟨hword, l, rfl, hpos, rfl⟩ := h
  constructor
  · intro hspans
    have hoffset := hspans.offset_le
    have hlimit := hspans.lt_limit l rfl
    omega
  · rintro ⟨hoffset, hlast⟩
    refine ⟨by omega, by omega, by omega, fun l' hl' => ?_⟩
    obtain rfl := Option.some.inj hl'
    omega

/-- An end is reported if a word follows it. -/
theorem axisEnd_eq_last_iff :
    axisEnd offset limit = .last last ↔ EndsAt offset limit last ∧ last + 1 < wordLimit := by
  constructor
  · intro h
    unfold axisEnd at h
    split at h
    · cases h
    · cases h
    · rename_i l hpos
      split_ifs at h with hword
      injection h with hlast
      have hpos : 0 < l := Nat.pos_of_ne_zero hpos
      exact ⟨⟨by omega, l, rfl, hpos, hlast.symm⟩, by omega⟩
  · rintro ⟨⟨-, l, rfl, hpos, rfl⟩, hnext⟩
    obtain ⟨k, rfl⟩ := Nat.exists_eq_add_of_lt hpos
    exact if_pos (by omega)

theorem axisEnd_eq_beyond_iff :
    axisEnd offset limit = .beyond ↔ ∃ l ∈ limit, 0 < l ∧ wordLimit ≤ offset + l := by
  constructor
  · intro h
    unfold axisEnd at h
    split at h
    · cases h
    · cases h
    · rename_i l hpos
      split_ifs at h with hword
      exact ⟨l, rfl, Nat.pos_of_ne_zero hpos, Nat.not_lt.1 hword⟩
  · rintro ⟨l, rfl, hpos, hword⟩
    obtain ⟨k, rfl⟩ := Nat.exists_eq_add_of_lt hpos
    exact if_neg (by omega)

/-- The end of an axis that ends at the last word is not computed: the sum of offset and limit is
no word. -/
theorem EndsAt.axisEnd_eq_beyond (h : EndsAt offset limit last) (hlast : last + 1 = wordLimit) :
    axisEnd offset limit = .beyond := by
  obtain ⟨-, l, hl, hpos, rfl⟩ := h
  exact axisEnd_eq_beyond_iff.2 ⟨l, hl, hpos, by omega⟩

/-- **Membership and ends agree up to the last word.**  A shifted position lies inside a window
exactly if both coordinates, as integers, are words between offset and limit.  Each axis with a limit
has its last position as its end, unless that is the last word of all, and an unshifted position
lies inside a window with two ends exactly if it lies between the offsets and the ends. -/
theorem contains_and_ends (w : TableWindow) :
    (∀ cell rows cols, w.contains cell rows cols ↔
      Spans w.rowOffset w.rowLimit (cell.row + rows) ∧
        Spans w.colOffset w.colLimit (cell.col + cols)) ∧
    (∀ last, EndsAt w.rowOffset w.rowLimit last →
      w.lastRow = if last + 1 = wordLimit then .beyond else .last last) ∧
    (∀ last, EndsAt w.colOffset w.colLimit last →
      w.lastColumn = if last + 1 = wordLimit then .beyond else .last last) ∧
    ∀ lastRow lastColumn, EndsAt w.rowOffset w.rowLimit lastRow →
      EndsAt w.colOffset w.colLimit lastColumn → ∀ cell, w.contains cell 0 0 ↔
        (w.rowOffset ≤ cell.row ∧ cell.row ≤ lastRow) ∧
          w.colOffset ≤ cell.col ∧ cell.col ≤ lastColumn := by
  have hend (offset : Nat) (limit : Option Nat) (last : Nat) (h : EndsAt offset limit last) :
      axisEnd offset limit = if last + 1 = wordLimit then .beyond else .last last := by
    split_ifs with hlast
    · exact h.axisEnd_eq_beyond hlast
    · have hword := h.1
      exact axisEnd_eq_last_iff.2 ⟨h, by omega⟩
  refine ⟨fun cell rows cols => w.contains_iff_spans, hend _ _, hend _ _, ?_⟩
  intro lastRow lastColumn hrow hcol cell
  rw [contains_iff_spans, hrow.spans_iff, hcol.spans_iff]

/-- A window of one cell at the last word of rows contains that cell, but its end is not computed. -/
theorem lastRow_atLastWord :
    let w : TableWindow := ⟨wordLimit - 1, 0, some 1, some 1⟩
    EndsAt w.rowOffset w.rowLimit (wordLimit - 1) ∧
      w.contains ⟨wordLimit - 1, 0⟩ 0 0 ∧ w.lastRow ≠ .last (wordLimit - 1) := by
  intro w
  have hword : 0 < wordLimit := by decide
  have hrow : EndsAt w.rowOffset w.rowLimit (wordLimit - 1) :=
    ⟨by omega, 1, rfl, Nat.one_pos, by simp only [w]; omega⟩
  have hcol : EndsAt w.colOffset w.colLimit 0 := ⟨hword, 1, rfl, Nat.one_pos, rfl⟩
  refine ⟨hrow, ?_, ?_⟩
  · rw [contains_iff_spans, hrow.spans_iff, hcol.spans_iff]
    simp [w]
  · rw [lastRow, hrow.axisEnd_eq_beyond (by omega)]
    simp

end TableWindow

end Playbill
