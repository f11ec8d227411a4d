import Mathlib.Data.List.Chain
import Playbill.Proofs.Text.Squeeze

/-!
# Texts in normal form

A text is in normal form if it has no blanks but single spaces between other characters.

* `Text.IsNormal`: a text in normal form; it is not empty.
* `Text.isNormal_collapse`: a collapsed text is in normal form, unless nothing is left of it, and
  that is so where there are only blanks (`Text.collapse_eq_nil_iff`).
* `Text.words_collapse`: collapsing keeps the words.
* `Text.IsNormal.collapse_eq`: a text in normal form is collapsed already.
-/

namespace Playbill

namespace Text

/-- A text in normal form: other characters than blanks stand at its ends, the only blank in it is
the space, and no two blanks are neighbours. -/
structure IsNormal (t : Text) : Prop where
  trimmed : IsTrimmed t
  space : ∀ c ∈ t, isBlank c → c = ' '
  single : t.IsChain fun c d => isBlank c → isBlank d = false

variable {t : Text}

/-! ### Squeezed texts -/

theorem eq_space_of_mem_gap {c : Char} (h : ∀ d ∈ t, isBlank d → d = ' ') (hmem : c ∈ gap t)
    (hc : isBlank c) : c = ' ' := by
  unfold gap at hmem
  split_ifs at hmem
  · exact h c hmem hc
  · rcases List.mem_cons.1 hmem with rfl | hmem
    · rfl
    · exact h c hmem hc

theorem eq_space_of_mem_squeeze (t : Text) : ∀ c ∈ squeeze t, isBlank c → c = ' ' := by
  induction t with
  | nil => exact List.forall_mem_nil _
  | cons d t ih =>
    intro c hmem hc
    cases hd : isBlank d with
    | true =>
      rw [squeeze_cons_blank hd] at hmem
      exact eq_space_of_mem_gap ih hmem hc
    | false =>
      rw [squeeze_cons_of_not_blank hd] at hmem
      rcases List.mem_cons.1 hmem with rfl | hmem
      · rw [hd] at hc
        cases hc
      · exact ih c hmem hc

theorem single_gap (h : t.IsChain fun c d => isBlank c → isBlank d = false) :
    (gap t).IsChain fun c d => isBlank c → isBlank d = false := by
  unfold gap
  split_ifs with hhead
  · exact h
  · refine List.isChain_cons.2 ⟨fun d hd _ => ?_, h⟩
    rw [hd, Option.all_some] at hhead
    exact Bool.eq_false_iff.2 hhead

theorem single_squeeze (t : Text) :
    (squeeze t).IsChain fun c d => isBlank c → isBlank d = false := by
  induction t with
  | nil => exact .nil
  | cons c t ih =>
    cases hc : isBlank c with
    | true =>
      rw [squeeze_cons_blank hc]
      exact single_gap ih
    | false =>
      rw [squeeze_cons_of_not_blank hc]
      refine List.isChain_cons.2 ⟨fun d _ hblank => ?_, ih⟩
      rw [hc] at hblank
      cases hblank

/-- A text without needless blanks stays as it is when it is squeezed. -/
theorem squeeze_eq_self (hlast : t.getLast?.all (!isBlank ·)) (hspace : ∀ c ∈ t, isBlank c → c = ' ')
    (hsingle : t.IsChain fun c d => isBlank c → isBlank d = false) : squeeze t = t := by
  induction t with
  | nil => rfl
  | cons c t ih =>
    rw [List.forall_mem_cons] at hspace
    rw [List.isChain_cons] at hsingle
    have hrest : squeeze t = t := by
      refine ih ?_ hspace.2 hsingle.2
      cases t with
      | nil => rfl
      | cons d t => rwa [List.getLast?_cons_cons] at hlast
    cases hc : isBlank c with
    | true =>
      -- A blank is not the last character, and what follows it is none.
      obtain rfl := hspace.1 hc
      cases t with
      | nil => cases hlast
      | cons d t =>
        have hd : isBlank d = false := hsingle.1 d rfl hc
        rw [squeeze_cons_blank hc, hrest]
        exact if_neg (Bool.eq_false_iff.1 hd)
    | false => rw [squeeze_cons_of_not_blank hc, hrest]

/-! ### Words -/

theorem words_append_cons {d : Char} (hd : isBlank d) (s t : Text) :
    words (s ++ d :: t) = words s ++ words t := by
  rw [words, piecesBy_append_cons hd, List.filter_append, words, words]

/-- Words with a single space between neighbours are read back. -/
theorem words_joinWith {ws : List Text} (h : ∀ w ∈ ws, w ≠ [] ∧ ∀ c ∈ w, isBlank c = false) :
    words (joinWith [' '] ws) = ws := by
  induction ws with
  | nil => rfl
  | cons w ws ih =>
    obtain ⟨⟨hne, hw⟩, hws⟩ := List.forall_mem_cons.1 h
    have hword : words w = [w] := by
      rw [words, piecesBy_of_forall hw]
      exact List.filter_eq_self.2 (List.forall_mem_singleton.2 (by simpa using hne))
    by_cases hlast : ws = []
    · subst hlast
      rw [joinWith, List.intercalate_singleton, hword]
    · have hrest : words (joinWith [' '] ws) = ws := ih hws
      rw [joinWith] at hrest ⊢
      rw [List.intercalate_cons_of_ne_nil hlast, List.append_assoc, List.singleton_append,
        words_append_cons rfl, hword, hrest, List.singleton_append]

/-- Collapsing a text keeps its words. -/
theorem words_collapse (t : Text) : words (collapse t) = words t :=
  words_joinWith fun _ hw => mem_words hw

/-! ### Collapsed texts -/

theorem isNormal_collapse (h : collapse t ≠ []) : (collapse t).IsNormal := by
  have hsuffix : collapse t <:+ squeeze t := by
    rw [collapse_eq]
    exact List.dropWhile_suffix isBlank
  constructor
  · exact isTrimmed_of_collapse_eq h (collapse_collapse t)
  · intro c hmem
    exact eq_space_of_mem_squeeze t c (hsuffix.subset hmem)
  · exact (single_squeeze t).suffix hsuffix

theorem IsNormal.collapse_eq (h : t.IsNormal) : collapse t = t := by
  obtain ⟨c, rest, rfl, hc⟩ := h.trimmed.exists_eq_cons
  obtain ⟨start, d, hlast, hd⟩ := h.trimmed.exists_eq_append
  rw [collapse_of_not_blank hc]
  refine squeeze_eq_self ?_ h.space h.single
  rw [hlast, List.getLast?_concat, Option.all_some, hd]
  rfl

theorem collapse_eq_nil_iff : collapse t = [] ↔ ∀ c ∈ t, isBlank c := by
  constructor
  · intro h c hmem
    by_contra hc
    obtain ⟨before, after, rfl⟩ := List.append_of_mem hmem
    have hblank : isBlank c = false := Bool.eq_false_iff.2 hc
    obtain ⟨s, -, hs⟩ := exists_squeeze_append before
    rw [collapse_eq, hs c after hblank, trimStart_append_cons hblank] at h
    exact List.append_ne_nil_of_right_ne_nil _ (List.cons_ne_nil c _) h
  · intro h
    rw [collapse_eq, squeeze_of_blanks h]
    rfl

@[simp] theorem collapse_trim (t : Text) : collapse (trim t) = collapse t := by
  rw [collapse_eq, squeeze_trim, collapse_eq, trimStart_trimStart]

end Text

end Playbill
