import Playbill.Proofs.Text.Letters

/-!
# Case mappings

* `congr_asciiLowerChar`: what does not tell apart the two cases of any ASCII letter;
  `Text.lower_asciiLower`: so it is with lower-case forms.
* `mapRuns_of_apart`: a case mapping moves nothing between its runs; `Text.lowerAfter_of_small`: so
  a text of small ASCII letters is its own lower-case form.
* `isBlank_mapRuns`: a case mapping neither moves blanks nor makes any; `isBlank_foldChar`,
  `isBlank_of_mem_lowerChar`: so it is with the two that are used.
-/

namespace Playbill

/-! ### Case of ASCII letters -/

/-- A function that has the same value at the two cases of every ASCII letter. -/
theorem congr_asciiLowerChar {α : Type} (f : Char → α)
    (h : ∀ k < 26, f (Char.ofNat (97 + k)) = f (Char.ofNat (65 + k))) (c : Char) :
    f (asciiLowerChar c) = f c := by
  unfold asciiLowerChar
  split_ifs with hc
  · have hbounds : 65 ≤ c.toNat ∧ c.toNat ≤ 90 := by
      simpa [Char.le_def, UInt32.le_iff_toNat_le] using hc
    have hletter := h (c.toNat - 65) (by omega)
    rwa [Nat.add_sub_cancel' hbounds.1, Char.ofNat_toNat,
      show 97 + (c.toNat - 65) = c.toNat + 32 by omega] at hletter
  · rfl

@[simp] theorem isBlank_asciiLowerChar (c : Char) : isBlank (asciiLowerChar c) = isBlank c :=
  congr_asciiLowerChar isBlank (by decide) c

@[simp] theorem isAlphabetic_asciiLowerChar (c : Char) :
    isAlphabetic (asciiLowerChar c) = isAlphabetic c :=
  congr_asciiLowerChar isAlphabetic (by decide) c

/-- A mapping moves nothing that lies apart from its runs. -/
theorem mapRuns_of_apart {runs : List CaseRun} {first last : Nat}
    (h : runs.all fun run => run.last.blt first || last.blt run.first) {c : Char}
    (hc : first ≤ c.toNat ∧ c.toNat ≤ last) : mapRuns runs c = c := by
  have hnone : runs.findSome? (·.image? c.toNat) = none := by
    refine List.findSome?_eq_none_iff.2 fun run hrun => ?_
    have hapart := List.all_eq_true.1 h run hrun
    simp only [Bool.or_eq_true, Nat.blt_eq] at hapart
    rw [CaseRun.image?, if_neg]
    simp only [Bool.and_eq_true, decide_eq_true_eq]
    omega
  rw [mapRuns, hnone]

/-- The lower-case form of a character from the accent grave to the inverted question mark, such as a
small ASCII letter, is the character. -/
theorem lowerChar_of_small {c : Char} (hc : 96 ≤ c.toNat ∧ c.toNat ≤ 191) : lowerChar c = [c] := by
  have hne : c ≠ 'İ' := by
    rintro rfl
    exact absurd hc.2 (by decide)
  have happart : lowercaseRuns.all fun run => run.last.blt 96 || (191).blt run.first := by
    decide +kernel
  rw [lowerChar, if_neg hne, mapRuns_of_apart happart hc]

@[simp] theorem lowerChar_asciiLowerChar (c : Char) : lowerChar (asciiLowerChar c) = lowerChar c := by
  have hcapital : ∀ k < 26, lowerChar (Char.ofNat (65 + k)) = [Char.ofNat (97 + k)] := by decide
  have hcode : ∀ k < 26, 96 ≤ (Char.ofNat (97 + k)).toNat ∧ (Char.ofNat (97 + k)).toNat ≤ 191 := by
    decide
  refine congr_asciiLowerChar lowerChar (fun k hk => ?_) c
  rw [hcapital k hk, lowerChar_of_small (hcode k hk)]

theorem asciiLowerChar_of_not_isAlphabetic {c : Char} (hc : isAlphabetic c = false) :
    asciiLowerChar c = c := by
  unfold asciiLowerChar
  split_ifs with hcapital
  · have hbounds : 65 ≤ c.toNat ∧ c.toNat ≤ 90 := by
      simpa [Char.le_def, UInt32.le_iff_toNat_le] using hcapital
    have hletter : isAlphabetic c := by
      refine List.any_eq_true.2 ⟨(65, 90), List.mem_cons_self, ?_⟩
      simpa only [Bool.and_eq_true, decide_eq_true_eq] using hbounds
    rw [hc] at hletter
    cases hletter
  · rfl

namespace Text

theorem utf8Length_asciiLower (t : Text) : utf8Length (asciiLower t) = utf8Length t := by
  induction t with
  | nil => rfl
  | cons c t ih =>
    have hsize := congr_asciiLowerChar Char.utf8Size (by decide) c
    rw [asciiLower, List.map_cons, utf8Length_cons, utf8Length_cons, hsize]
    exact congrArg _ ih

theorem casedNext_asciiLower (t : Text) : casedNext (asciiLower t) = casedNext t := by
  have hletters : rangesApart [(65, 90), (97, 122)] caseIgnorableRanges := by decide +kernel
  have hcapital : ∀ k < 26, inRanges [(65, 90), (97, 122)] (Char.ofNat (65 + k)) := by decide
  have hsmall : ∀ k < 26, inRanges [(65, 90), (97, 122)] (Char.ofNat (97 + k)) := by decide
  have hignored := congr_asciiLowerChar isCaseIgnorable fun k hk =>
    (inRanges_eq_false_of_disjoint hletters (hsmall k hk)).trans
      (inRanges_eq_false_of_disjoint hletters (hcapital k hk)).symm
  have hcased := congr_asciiLowerChar isCased (by decide)
  have hrest : (asciiLower t).dropWhile isCaseIgnorable =
      asciiLower (t.dropWhile isCaseIgnorable) := by
    rw [asciiLower, List.dropWhile_map]
    exact congrArg _ (congrArg (List.dropWhile · t) (funext hignored))
  rw [casedNext, casedNext, hrest]
  cases t.dropWhile isCaseIgnorable with
  | nil => rfl
  | cons c rest => exact hcased c

theorem lowerAfter_asciiLower (before t : Text) :
    lowerAfter (asciiLower before) (asciiLower t) = lowerAfter before t := by
  induction t generalizing before with
  | nil => rfl
  | cons c t ih =>
    have hsigma := congr_asciiLowerChar (· == 'Σ') (by decide) c
    have hcons (u : Text) : asciiLower (c :: u) = asciiLowerChar c :: asciiLower u := rfl
    simp only [hcons, lowerAfter, hsigma, lowerChar_asciiLowerChar, lowerSigma,
      casedNext_asciiLower]
    rw [← hcons, ih]

@[simp] theorem lower_asciiLower (t : Text) : lower (asciiLower t) = lower t :=
  lowerAfter_asciiLower [] t

theorem lowerAfter_of_small {t : Text} (h : ∀ c ∈ t, 96 ≤ c.toNat ∧ c.toNat ≤ 191)
    (before : Text) : lowerAfter before t = t := by
  induction t generalizing before with
  | nil => rfl
  | cons c t ih =>
    rw [List.forall_mem_cons] at h
    have hsigma : c ≠ 'Σ' := by
      rintro rfl
      exact absurd h.1.2 (by decide)
    rw [lowerAfter, if_neg (mt beq_iff_eq.1 hsigma), lowerChar_of_small h.1, ih h.2,
      List.singleton_append]

end Text

/-! ### Blanks -/

/-- The code points of blanks. -/
def blankRanges : List (Nat × Nat) :=
  [(0x09, 0x0D), (0x20, 0x20), (0x85, 0x85), (0xA0, 0xA0), (0x1680, 0x1680), (0x2000, 0x200A),
    (0x2028, 0x2029), (0x202F, 0x202F), (0x205F, 0x205F), (0x3000, 0x3000)]

theorem isBlank_eq (c : Char) : isBlank c = inRanges blankRanges c :=
  rfl

/-- A run neither covers a blank nor has one for an image. -/
def CaseRun.sparesBlanks (run : CaseRun) : Bool :=
  blankRanges.all fun range =>
    (run.last.blt range.1 || range.2.blt run.first) &&
      ((run.last - run.first + run.target).blt range.1 || range.2.blt run.target)

theorem isBlank_mapRuns {runs : List CaseRun} (h : ∀ run ∈ runs, run.sparesBlanks) (c : Char) :
    isBlank (mapRuns runs c) = isBlank c := by
  rw [mapRuns]
  split
  · rename_i code hcode
    obtain ⟨run, hrun, himage⟩ := List.exists_of_findSome?_eq_some hcode
    unfold CaseRun.image? at himage
    split_ifs at himage with hcovers
    simp only [Bool.and_eq_true, decide_eq_true_eq] at hcovers
    obtain ⟨⟨hfirst, hlast⟩, -⟩ := hcovers
    obtain rfl := Option.some.inj himage
    have hspared : ∀ range ∈ blankRanges, (run.last < range.1 ∨ range.2 < run.first) ∧
        (run.last - run.first + run.target < range.1 ∨ range.2 < run.target) := by
      intro range hrange
      have hapart := List.all_eq_true.1 (h run hrun) range hrange
      simpa only [Bool.and_eq_true, Bool.or_eq_true, Nat.blt_eq] using hapart
    have hsource : isBlank c = false := List.any_eq_false.2 fun range hrange => by
      have hapart := (hspared range hrange).1
      simp only [Bool.and_eq_true, decide_eq_true_eq]
      omega
    rw [hsource]
    by_cases hvalid : (c.toNat - run.first + run.target).isValidChar
    · refine List.any_eq_false.2 fun range hrange => ?_
      have hapart := (hspared range hrange).2
      rw [Char.ofNat, dif_pos hvalid]
      change ¬ (decide (range.1 ≤ c.toNat - run.first + run.target) &&
        decide (c.toNat - run.first + run.target ≤ range.2)) = true
      simp only [Bool.and_eq_true, decide_eq_true_eq]
      omega
    · rw [Char.ofNat, dif_neg hvalid]
      rfl
  · rfl

theorem sparesBlanks_of_mem : (∀ run ∈ lowercaseRuns, run.sparesBlanks) ∧
    ∀ run ∈ foldingRuns, run.sparesBlanks := by
  decide +kernel

@[simp] theorem isBlank_foldChar (c : Char) : isBlank (foldChar c) = isBlank c :=
  isBlank_mapRuns sparesBlanks_of_mem.2 c

/-- The lower-case form of a blank is the blank, and no other character has blanks in its form. -/
theorem isBlank_of_mem_lowerChar {c d : Char} (h : d ∈ lowerChar c) : isBlank d = isBlank c := by
  rw [lowerChar] at h
  split_ifs at h with hdotted
  · rw [hdotted]
    rcases List.mem_cons.1 h with rfl | h
    · rfl
    · rw [List.mem_singleton.1 h]
      decide
  · rw [List.mem_singleton.1 h]
    exact isBlank_mapRuns sparesBlanks_of_mem.1 c

end Playbill
