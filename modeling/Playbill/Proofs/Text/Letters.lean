import Playbill.Proofs.Text.Basic
import Playbill.Text.Alphabetic

/-!
# Letters

* `isBlank_of_isAlphabetic`, `le_toNat_of_isAlphabetic`, `isAsciiDigit_of_isAlphabetic`: letters are
  not blanks, and come after the digits.
* `isAlphabetic_of_mem_sources`: the lower-case mapping moves nothing else.
* `lowerChar_of_not_isAlphabetic`: what is no letter is its own lower-case form;
  `mem_lower_of_not_isAlphabetic`: so it stands in the lower-case form of a text too.
* `eq_dot_of_lowerChar`: no other character has a dot as its lower-case form.
-/

namespace Playbill

theorem isBlank_of_isAlphabetic {c : Char} (hc : isAlphabetic c) : isBlank c = false :=
  inRanges_eq_false_of_disjoint (by decide +kernel) hc

theorem not_isAlphabetic_of_isBlank {c : Char} (hc : isBlank c) : isAlphabetic c = false :=
  Bool.eq_false_iff.2 fun hletter => by
    rw [isBlank_of_isAlphabetic hletter] at hc
    cases hc

/-- There are no letters below the capital A. -/
theorem le_toNat_of_isAlphabetic {c : Char} (hc : isAlphabetic c) : 65 ≤ c.toNat := by
  have hfirst : ∀ range ∈ alphabeticRanges, 65 ≤ range.1 := by decide +kernel
  obtain ⟨range, hrange, hbounds⟩ := List.any_eq_true.1 hc
  simp only [Bool.and_eq_true, decide_eq_true_eq] at hbounds
  exact (hfirst range hrange).trans hbounds.1

theorem not_isAlphabetic_of_lt {c : Char} (hc : c.toNat < 65) : isAlphabetic c = false :=
  Bool.eq_false_iff.2 fun hletter => hc.not_ge (le_toNat_of_isAlphabetic hletter)

theorem isAsciiDigit_of_isAlphabetic {c : Char} (hc : isAlphabetic c) : isAsciiDigit c = false := by
  rw [Bool.eq_false_iff]
  intro hdigit
  have hbounds := Text.toNat_of_isAsciiDigit hdigit
  have hle := le_toNat_of_isAlphabetic hc
  omega

/-- Whether some code points lie in the ranges of a table, both being listed in order. -/
def lieInOrder : List (Nat × Nat) → List Nat → Bool
  | _, [] => true
  | ranges, code :: codes =>
    let later := ranges.dropWhile fun range => range.2.blt code
    later.head?.any (fun range => range.1.ble code && code.ble range.2) && lieInOrder later codes

theorem exists_range_of_lieInOrder {ranges : List (Nat × Nat)} {codes : List Nat}
    (h : lieInOrder ranges codes) :
    ∀ code ∈ codes, ∃ range ∈ ranges, range.1 ≤ code ∧ code ≤ range.2 := by
  induction codes generalizing ranges with
  | nil => exact fun _ h => (List.not_mem_nil h).elim
  | cons code codes ih =>
    simp only [lieInOrder, Bool.and_eq_true, Option.any_eq_true, Nat.ble_eq] at h
    have hlater := (List.dropWhile_sublist (l := ranges) fun range => range.2.blt code).subset
    obtain ⟨⟨range, hrange, hbounds⟩, hcodes⟩ := h
    refine List.forall_mem_cons.2 ⟨⟨range, hlater (List.mem_of_head? hrange), hbounds⟩, ?_⟩
    intro other hother
    obtain ⟨range, hrange, hbounds⟩ := ih hcodes other hother
    exact ⟨range, hlater hrange, hbounds⟩

/-- The code points that a run covers. -/
def CaseRun.sources (run : CaseRun) : List Nat :=
  (List.range ((run.last - run.first) / run.step + 1)).map fun k => run.first + run.step * k

/-- Every character that has another lower-case form is a letter. -/
theorem isAlphabetic_of_mem_sources {c : Char} {run : CaseRun} (hrun : run ∈ lowercaseRuns)
    (hc : c.toNat ∈ run.sources) : isAlphabetic c := by
  have hall : lieInOrder alphabeticRanges (lowercaseRuns.flatMap CaseRun.sources) := by
    decide +kernel
  obtain ⟨range, hrange, hbounds⟩ :=
    exists_range_of_lieInOrder hall c.toNat (List.mem_flatMap.2 ⟨run, hrun, hc⟩)
  refine List.any_eq_true.2 ⟨range, hrange, ?_⟩
  simpa only [Bool.and_eq_true, decide_eq_true_eq] using hbounds

theorem image?_of_not_isAlphabetic {c : Char} (hc : isAlphabetic c = false) {run : CaseRun}
    (hrun : run ∈ lowercaseRuns) : run.image? c.toNat = none := by
  unfold CaseRun.image?
  rw [if_neg]
  intro hcovers
  simp only [Bool.and_eq_true, decide_eq_true_eq, beq_iff_eq] at hcovers
  obtain ⟨⟨hfirst, hlast⟩, hstep⟩ := hcovers
  have hcode : run.first + run.step * ((c.toNat - run.first) / run.step) = c.toNat := by
    rw [Nat.mul_div_cancel' (Nat.dvd_of_mod_eq_zero hstep)]
    omega
  have hle := Nat.div_le_div_right (c := run.step) (Nat.sub_le_sub_right hlast run.first)
  have hsource : c.toNat ∈ run.sources :=
    List.mem_map.2 ⟨_, List.mem_range.2 (Nat.lt_succ_of_le hle), hcode⟩
  rw [isAlphabetic_of_mem_sources hrun hsource] at hc
  cases hc

theorem lowerChar_of_not_isAlphabetic {c : Char} (hc : isAlphabetic c = false) :
    lowerChar c = [c] := by
  have hne : c ≠ 'İ' := by
    rintro rfl
    exact absurd hc (by decide)
  have hnone : lowercaseRuns.findSome? (·.image? c.toNat) = none :=
    List.findSome?_eq_none_iff.2 fun run hrun => image?_of_not_isAlphabetic hc hrun
  rw [lowerChar, if_neg hne, mapRuns, hnone]

/-- A dot is the lower-case form of itself alone. -/
theorem eq_dot_of_lowerChar {c : Char} (h : lowerChar c = lowerChar '.') : c = '.' := by
  have hdot : lowerChar '.' = ['.'] := lowerChar_of_not_isAlphabetic (not_isAlphabetic_of_lt (by decide))
  rw [hdot, lowerChar] at h
  split_ifs at h
  · cases List.head_eq_of_cons_eq h
  have hmap : mapRuns lowercaseRuns c = '.' := List.head_eq_of_cons_eq h
  rw [mapRuns] at hmap
  split at hmap
  · -- No run has a dot among its images, which lie at or after its target.
    rename_i code hcode
    obtain ⟨run, hrun, himage⟩ := List.exists_of_findSome?_eq_some hcode
    have htarget : ∀ run ∈ lowercaseRuns, '.'.toNat < run.target := by decide +kernel
    have hlt := htarget run hrun
    unfold CaseRun.image? at himage
    split_ifs at himage
    have hle : run.target ≤ code := by
      rw [← Option.some.inj himage]
      omega
    by_cases hvalid : code.isValidChar
    · rw [Char.ofNat, dif_pos hvalid] at hmap
      have hval : code = '.'.toNat := congrArg Char.toNat hmap
      omega
    · rw [Char.ofNat, dif_neg hvalid] at hmap
      cases hmap
  · exact hmap

theorem mem_lowerAfter_of_not_isAlphabetic {c : Char} (hc : isAlphabetic c = false) (before : Text)
    {t : Text} (hmem : c ∈ t) : c ∈ Text.lowerAfter before t := by
  induction t generalizing before with
  | nil => cases hmem
  | cons d t ih =>
    rw [Text.lowerAfter]
    rcases List.mem_cons.1 hmem with rfl | hmem
    · have hne : (c == 'Σ') = false := by
        rw [beq_eq_false_iff_ne]
        rintro rfl
        exact absurd hc (by decide)
      refine List.mem_append_left _ ?_
      rw [hne, lowerChar_of_not_isAlphabetic hc]
      exact List.mem_cons_self
    · exact List.mem_append_right _ (ih _ hmem)

theorem mem_lower_of_not_isAlphabetic {c : Char} (hc : isAlphabetic c = false) {t : Text}
    (hmem : c ∈ t) : c ∈ Text.lower t :=
  mem_lowerAfter_of_not_isAlphabetic hc [] hmem

end Playbill
