import Playbill.Proofs.RelativeDay.Words

/-!
# Lists of day words as unions

A list of words matches what one of its words matches.

* `DayWords.names_iff`, `DayWords.names_append_iff`: what a list names is what its words name.
* `DayWords.matchesText_ofList_iff`: a list with words matches what it names;
  `DayWords.matchesText_noWords_iff`: a list without words matches every text that has a word
  character.
* `DayWords.matchesText_union`: two lists together match what one of them matches, unless one of
  them has no words.
* `DayWords.matchesText_withoutWords`: a match of a list without words that a word more loses.
-/

namespace Playbill

open Text

namespace DayWords

variable {first second : List Text} {t : Text}

/-! ### The empty word -/

/-- The empty word stands in front of the first word character. -/
theorem standsAfter_empty_of_mem {before : Option Char} (hbefore : before.any isWordChar = false)
    (h : ∃ c ∈ t, isWordChar c) : StandsAfter before (Spells []) t := by
  induction t generalizing before with
  | nil =>
    obtain ⟨c, hc, -⟩ := h
    cases hc
  | cons c t ih =>
    rw [standsAfter_cons_iff]
    cases hc : isWordChar c with
    | true =>
      have hboundary : isBoundary before (c :: t).head? := by
        rw [isBoundary, hbefore, List.head?_cons, Option.any_some, hc]
        rfl
      exact .inl ⟨[], c :: t, rfl, rfl, hboundary, hboundary⟩
    | false =>
      obtain ⟨d, hd, hword⟩ := h
      refine .inr (ih hc ⟨d, ?_, hword⟩)
      refine (List.mem_cons.1 hd).resolve_left ?_
      rintro rfl
      rw [hc] at hword
      cases hword

/-- The empty word stands at a boundary, and there is one where there are word characters. -/
theorem standsIn_empty_iff : StandsIn (Spells []) t ↔ ∃ c ∈ t, isWordChar c := by
  refine ⟨?_, standsAfter_empty_of_mem rfl⟩
  rintro ⟨skipped, stretch, rest, rfl, hspells, hstart, -⟩
  obtain rfl := List.map_eq_nil_iff.1 hspells
  rw [List.nil_append] at hstart ⊢
  by_contra hnone
  have hany (o : Option Char) (ho : ∀ c ∈ o, c ∈ skipped ++ rest) : o.any isWordChar = false := by
    cases o with
    | none => rfl
    | some c => exact Bool.eq_false_iff.2 fun hword => hnone ⟨c, ho c rfl, hword⟩
  have hbefore : (skipped.getLast?.or none).any isWordChar = false := by
    rw [Option.or_none]
    exact hany _ fun c hc => List.mem_append_left _ (List.mem_of_getLast? hc)
  have hafter : rest.head?.any isWordChar = false :=
    hany _ fun c hc => List.mem_append_right _ (List.mem_of_head? hc)
  rw [isBoundary, hbefore, hafter] at hstart
  cases hstart

/-! ### What lists name -/

/-- A list names a text if one of its words does. -/
theorem names_iff {list : DayWords} :
    list.Names t ↔ ∃ w ∈ list.words, lower (trim t) = w ∨ StandsIn (Spells w) t := by
  constructor
  · rintro (hmem | ⟨w, hw, hstands⟩)
    · exact ⟨_, hmem, .inl rfl⟩
    · exact ⟨w, hw, .inr hstands⟩
  · rintro ⟨w, hw, rfl | hstands⟩
    · exact .inl hw
    · exact .inr ⟨w, hw, hstands⟩

theorem names_of_subset (h : first ⊆ second) (hnames : (ofList first).Names t) :
    (ofList second).Names t := by
  obtain ⟨w, hw, hnamed⟩ := names_iff.1 hnames
  exact names_iff.2 ⟨w, List.map_subset lower h hw, hnamed⟩

theorem names_append_iff :
    (ofList (first ++ second)).Names t ↔ (ofList first).Names t ∨ (ofList second).Names t := by
  simp only [names_iff, ofList, List.map_append, List.mem_append, or_and_right, exists_or]

/-! ### What lists match -/

/-- A list with words matches the texts that it names. -/
theorem matchesText_ofList_iff (h : first ≠ []) :
    (ofList first).matchesText t ↔ (ofList first).Names t :=
  matchesText_iff (mt List.map_eq_nil_iff.1 h)

/-- A list without words is searched for as the empty word. -/
theorem matchesText_noWords_iff : (ofList []).matchesText t ↔ ∃ c ∈ t, isWordChar c := by
  have hholds : (ofList []).matchesText t = holdsWord [[]] none t := rfl
  rw [hholds, holdsWord_iff, ← standsIn_empty_iff]
  simp [StandsIn]

theorem matchesText_of_subset (hne : first ≠ []) (hsub : first ⊆ second)
    (h : (ofList first).matchesText t) : (ofList second).matchesText t := by
  have hne' : second ≠ [] := by
    rintro rfl
    exact hne (List.subset_nil.1 hsub)
  rw [matchesText_ofList_iff hne] at h
  rw [matchesText_ofList_iff hne']
  exact names_of_subset hsub h

/-- Lists with the same words match the same texts. -/
theorem matchesText_congr (h : ∀ w, w ∈ first ↔ w ∈ second) :
    (ofList first).matchesText t = (ofList second).matchesText t := by
  by_cases hfirst : first = []
  · have hsecond : second = [] := by
      simpa only [hfirst, List.not_mem_nil, false_iff, ← List.eq_nil_iff_forall_not_mem] using h
    rw [hfirst, hsecond]
  · obtain ⟨w, hw⟩ := List.exists_mem_of_ne_nil first hfirst
    have hsecond : second ≠ [] := List.ne_nil_of_mem ((h w).1 hw)
    rw [Bool.eq_iff_iff]
    exact ⟨matchesText_of_subset hfirst fun w hw => (h w).1 hw,
      matchesText_of_subset hsecond fun w hw => (h w).2 hw⟩

theorem matchesText_append_iff (hfirst : first ≠ []) (hsecond : second ≠ []) :
    (ofList (first ++ second)).matchesText t ↔
      (ofList first).matchesText t ∨ (ofList second).matchesText t := by
  have hboth : first ++ second ≠ [] := List.append_ne_nil_of_left_ne_nil hfirst second
  rw [matchesText_ofList_iff hboth, matchesText_ofList_iff hfirst, matchesText_ofList_iff hsecond,
    names_append_iff]

/-- **Lists of words act as unions.**  Two lists together match what one of them matches, except where
just one of them is without words and the words of the other do not match a text with a word
character.  More words match no less if there are words, neither order nor repetition of words makes
a difference, and a list without words matches exactly the texts with a word character. -/
theorem matchesText_union (first second : List Text) (t : Text) :
    (((ofList (first ++ second)).matchesText t ↔
        (ofList first).matchesText t ∨ (ofList second).matchesText t) ↔
      (first = [] ↔ second = []) ∨ (∀ c ∈ t, isWordChar c = false) ∨
        (ofList (first ++ second)).matchesText t) ∧
    (first ≠ [] → first ⊆ second → (ofList first).matchesText t →
      (ofList second).matchesText t) ∧
    ((∀ w, w ∈ first ↔ w ∈ second) →
      (ofList first).matchesText t = (ofList second).matchesText t) ∧
    ((ofList []).matchesText t ↔ ∃ c ∈ t, isWordChar c) := by
  refine ⟨?_, matchesText_of_subset, matchesText_congr, matchesText_noWords_iff⟩
  have hplain : (∀ c ∈ t, isWordChar c = false) ↔ ¬ (ofList []).matchesText t := by
    rw [matchesText_noWords_iff]
    simp
  rw [hplain]
  by_cases hfirst : first = [] <;> by_cases hsecond : second = []
  · simp [hfirst, hsecond]
  · simp only [hfirst, List.nil_append, hsecond]
    tauto
  · simp only [hsecond, List.append_nil, hfirst]
    tauto
  · exact iff_of_true (matchesText_append_iff hfirst hsecond)
      (.inl (iff_of_false hfirst hsecond))

/-- A list without words matches the name of a month; with a word added it no longer does. -/
theorem matchesText_withoutWords :
    (ofList []).matchesText "Mai" = true ∧
      (ofList ([] ++ [("heute" : Text)])).matchesText "Mai" = false := by
  constructor
  · exact matchesText_noWords_iff.2 ⟨'M', by simp, by decide +kernel⟩
  · decide +kernel

end DayWords

end Playbill
