import Mathlib.Logic.Relation
import Playbill.Proofs.Text.CaseMaps

/-!
# Runs of blanks

A text is squeezed when every run of blanks in it is a single space, and none stands at its end.

* `Text.squeeze`: the squeezed form, in which a text without blanks at its start is collapsed
  (`Text.collapse_eq`).
* `Text.exists_squeeze_append`, `Text.exists_of_squeeze_eq`: the stretches of a squeezed text are
  those of the text; `Text.squeeze_lower`: its lower-case form is the squeezed one.
* `Text.IsTrimmed`: a text without blanks at its ends; `Text.IsTrimmed.trim_surround`: blanks around
  it are dropped.
* `Text.plain`: the squeezed form with ASCII capitals made small.
* `Text.Restyling`: one change of the case of a letter, of a run of blanks, or of the blanks at an
  end; `Text.Restyling.plain_eq`: the plain forms stay the same but for blanks at the start.
-/

namespace Playbill

namespace Text

/-! ### Squeezed texts -/

/-- A space in front of a squeezed text, unless blanks or the end follow. -/
def gap (t : Text) : Text :=
  if t.head?.all isBlank then t else ' ' :: t

/-- The text with a single space for every run of blanks, and without blanks at its end. -/
def squeeze (t : Text) : Text :=
  t.foldr (fun c rest => if isBlank c then gap rest else c :: rest) []

variable {b t u : Text}

@[simp] theorem squeeze_nil : squeeze [] = [] := rfl

theorem squeeze_cons_blank {c : Char} (hc : isBlank c) (t : Text) :
    squeeze (c :: t) = gap (squeeze t) :=
  if_pos hc

theorem squeeze_cons_of_not_blank {c : Char} (hc : isBlank c = false) (t : Text) :
    squeeze (c :: t) = c :: squeeze t :=
  if_neg (Bool.eq_false_iff.1 hc)

theorem gap_of_blank_head (h : t.head?.all isBlank) : gap t = t :=
  if_pos h

theorem head?_gap (t : Text) : (gap t).head?.all isBlank := by
  unfold gap
  split_ifs with h
  · exact h
  · rfl

theorem gap_gap (t : Text) : gap (gap t) = gap t :=
  gap_of_blank_head (head?_gap t)

theorem trimStart_gap (t : Text) : trimStart (gap t) = trimStart t := by
  unfold gap
  split_ifs
  · rfl
  · exact trimStart_cons_blank rfl t

theorem squeeze_append_congr (h : squeeze t = squeeze u) (s : Text) :
    squeeze (s ++ t) = squeeze (s ++ u) := by
  unfold squeeze at h ⊢
  rw [List.foldr_append, List.foldr_append, h]

/-- A run of blanks is squeezed to a gap. -/
theorem squeeze_blanks_append (hne : b ≠ []) (hb : ∀ c ∈ b, isBlank c) (t : Text) :
    squeeze (b ++ t) = gap (squeeze t) := by
  induction b with
  | nil => exact absurd rfl hne
  | cons c b ih =>
    rw [List.forall_mem_cons] at hb
    rw [List.cons_append, squeeze_cons_blank hb.1]
    cases b with
    | nil => rfl
    | cons d b => rw [ih (List.cons_ne_nil d b) hb.2, gap_gap]

theorem squeeze_of_blanks (hb : ∀ c ∈ b, isBlank c) : squeeze b = [] := by
  induction b with
  | nil => rfl
  | cons c b ih =>
    rw [List.forall_mem_cons] at hb
    rw [squeeze_cons_blank hb.1, ih hb.2]
    rfl

theorem trimStart_squeeze (t : Text) : trimStart (squeeze t) = squeeze (trimStart t) := by
  induction t with
  | nil => rfl
  | cons c t ih =>
    cases hc : isBlank c with
    | true => rw [squeeze_cons_blank hc, trimStart_gap, ih, trimStart_cons_blank hc]
    | false =>
      rw [trimStart_cons_of_not_blank hc, squeeze_cons_of_not_blank hc,
        trimStart_cons_of_not_blank hc]

theorem squeeze_gap (t : Text) : squeeze (gap t) = gap (squeeze t) := by
  unfold gap
  split_ifs with h hsqueezed hsqueezed
  · rfl
  · cases t with
    | nil => exact absurd rfl hsqueezed
    | cons c t =>
      rw [squeeze_cons_blank h] at hsqueezed
      exact absurd (head?_gap _) hsqueezed
  · rw [squeeze_cons_blank rfl, gap_of_blank_head hsqueezed]
  · rw [squeeze_cons_blank rfl, gap, if_neg hsqueezed]

@[simp] theorem squeeze_squeeze (t : Text) : squeeze (squeeze t) = squeeze t := by
  induction t with
  | nil => rfl
  | cons c t ih =>
    cases hc : isBlank c with
    | true => rw [squeeze_cons_blank hc, squeeze_gap, ih]
    | false => rw [squeeze_cons_of_not_blank hc, squeeze_cons_of_not_blank hc, ih]

theorem map_gap {f : Char → Char} (hblank : ∀ c, isBlank (f c) = isBlank c) (hspace : f ' ' = ' ')
    (t : Text) : (gap t).map f = gap (t.map f) := by
  have hhead : (t.map f).head?.all isBlank = t.head?.all isBlank := by
    cases t with
    | nil => rfl
    | cons c t => exact hblank c
  unfold gap
  rw [hhead]
  split_ifs
  · rfl
  · rw [List.map_cons, hspace]

/-- A mapping of characters that keeps blanks and spaces may come before or after. -/
theorem map_squeeze {f : Char → Char} (hblank : ∀ c, isBlank (f c) = isBlank c)
    (hspace : f ' ' = ' ') (t : Text) : (squeeze t).map f = squeeze (t.map f) := by
  induction t with
  | nil => rfl
  | cons c t ih =>
    cases hc : isBlank c with
    | true =>
      rw [List.map_cons, squeeze_cons_blank hc, squeeze_cons_blank ((hblank c).trans hc),
        map_gap hblank hspace, ih]
    | false =>
      rw [List.map_cons, squeeze_cons_of_not_blank hc,
        squeeze_cons_of_not_blank ((hblank c).trans hc), List.map_cons, ih]

/-! ### Stretches of squeezed texts -/

/-- A text and its squeezed form start in the same way, blanks being alike. -/
theorem any_head?_squeeze {p : Char → Bool} (hp : ∀ c, isBlank c → p c = false) (t : Text) :
    (squeeze t).head?.any p = t.head?.any p := by
  cases t with
  | nil => rfl
  | cons c t =>
    cases hc : isBlank c with
    | true =>
      have hhead := head?_gap (squeeze t)
      rw [squeeze_cons_blank hc, List.head?_cons, Option.any_some, hp c hc]
      cases hgap : (gap (squeeze t)).head? with
      | none => rfl
      | some d =>
        rw [hgap] at hhead
        exact hp d hhead
    | false => rw [squeeze_cons_of_not_blank hc]; rfl

/-- A space for every blank. -/
def spaceFor (c : Char) : Char :=
  if isBlank c then ' ' else c

/-- The last characters of two texts are the same, or both are blank. -/
def EndAlike (t u : Text) : Prop :=
  t.getLast?.map spaceFor = u.getLast?.map spaceFor

theorem EndAlike.cons {c d : Char} (hc : spaceFor c = spaceFor d) (h : EndAlike t u) :
    EndAlike (c :: t) (d :: u) := by
  unfold EndAlike at h ⊢
  rw [List.getLast?_cons, List.getLast?_cons, Option.map_some, Option.map_some]
  cases ht : t.getLast? with
  | none =>
    cases hu : u.getLast? with
    | none => exact congrArg some hc
    | some e => rw [ht, hu] at h; cases h
  | some e =>
    cases hu : u.getLast? with
    | none => rw [ht, hu] at h; cases h
    | some f => rwa [ht, hu] at h

theorem EndAlike.eq_nil (h : EndAlike t []) : t = [] :=
  List.getLast?_eq_none_iff.1 (Option.map_eq_none_iff.1 h)

theorem EndAlike.any_eq {p : Char → Bool} (hp : ∀ c, isBlank c → p c = false) (h : EndAlike t u) :
    t.getLast?.any p = u.getLast?.any p := by
  have hspace (c : Char) : p (spaceFor c) = p c := by
    unfold spaceFor
    split_ifs with hc
    · rw [hp ' ' rfl, hp c hc]
    · rfl
  have hany (o : Option Char) : (o.map spaceFor).any p = o.any p := by
    cases o with
    | none => rfl
    | some c => exact hspace c
  rw [← hany, h, hany]

/-- What stands before a character that is no blank is squeezed on its own. -/
theorem exists_squeeze_append (t : Text) :
    ∃ s, EndAlike s t ∧
      ∀ c after, isBlank c = false → squeeze (t ++ c :: after) = s ++ c :: squeeze after := by
  induction t with
  | nil => exact ⟨[], rfl, fun c after hc => squeeze_cons_of_not_blank hc after⟩
  | cons d t ih =>
    obtain ⟨s, hend, hs⟩ := ih
    cases hd : isBlank d with
    | false =>
      refine ⟨d :: s, hend.cons rfl, fun c after hc => ?_⟩
      rw [List.cons_append, squeeze_cons_of_not_blank hd, hs c after hc, List.cons_append]
    | true =>
      have hspace : spaceFor ' ' = spaceFor d := (if_pos hd).symm
      cases s with
      | nil =>
        refine ⟨[' '], hend.cons hspace, fun c after hc => ?_⟩
        rw [List.cons_append, squeeze_cons_blank hd, hs c after hc]
        exact if_neg (Bool.eq_false_iff.1 hc)
      | cons e s =>
        cases he : isBlank e with
        | false =>
          refine ⟨' ' :: e :: s, hend.cons hspace, fun c after hc => ?_⟩
          rw [List.cons_append, squeeze_cons_blank hd, hs c after hc]
          exact if_neg (Bool.eq_false_iff.1 he)
        | true =>
          refine ⟨e :: s, ?_, fun c after hc => ?_⟩
          · cases t with
            | nil => exact absurd hend.eq_nil (List.cons_ne_nil e s)
            | cons x t => exact hend
          · rw [List.cons_append, squeeze_cons_blank hd, hs c after hc]
            exact if_pos he

/-- A character of a squeezed text that is no blank stands in the text too, and what is before it
and after it there is what is squeezed. -/
theorem exists_of_squeeze_eq {before after : Text} {c : Char} (hc : isBlank c = false)
    (h : squeeze t = before ++ c :: after) :
    ∃ before' after', t = before' ++ c :: after' ∧ squeeze after' = after ∧
      squeeze (before' ++ [c]) = before ++ [c] ∧ EndAlike before' before := by
  induction t generalizing before with
  | nil => cases before <;> cases h
  | cons d t ih =>
    cases hd : isBlank d with
    | false =>
      rw [squeeze_cons_of_not_blank hd] at h
      cases before with
      | nil =>
        obtain ⟨rfl, rfl⟩ := List.cons.inj h
        exact ⟨[], t, rfl, rfl, squeeze_cons_of_not_blank hd [], rfl⟩
      | cons e before =>
        obtain ⟨rfl, hrest⟩ := List.cons.inj h
        obtain ⟨before', after', rfl, hafter, hbefore, hend⟩ := ih hrest
        refine ⟨d :: before', after', rfl, hafter, ?_, hend.cons rfl⟩
        rw [List.cons_append, squeeze_cons_of_not_blank hd, hbefore, List.cons_append]
    | true =>
      have hhead (s : Text) : (s ++ [c]).head? = (s ++ c :: after).head? := by cases s <;> rfl
      rw [squeeze_cons_blank hd] at h
      by_cases hgap : (squeeze t).head?.all isBlank
      · rw [gap_of_blank_head hgap] at h
        obtain ⟨before', after', rfl, hafter, hbefore, hend⟩ := ih h
        have hblank : (before ++ [c]).head?.all isBlank := by rwa [hhead, ← h]
        refine ⟨d :: before', after', rfl, hafter, ?_, ?_⟩
        · rw [List.cons_append, squeeze_cons_blank hd, hbefore, gap_of_blank_head hblank]
        · cases before' with
          | nil =>
            -- The blank in front of the text would stand in front of the character.
            obtain rfl := EndAlike.eq_nil (Eq.symm hend)
            exact absurd hblank (Bool.eq_false_iff.1 hc)
          | cons e before' => exact hend
      · rw [gap, if_neg hgap] at h
        cases before with
        | nil =>
          obtain ⟨rfl, -⟩ := List.cons.inj h
          cases hc
        | cons e before =>
          obtain ⟨rfl, hlist⟩ := List.cons.inj h
          have hrest : squeeze t = before ++ c :: after := hlist
          have hnot : ¬ (before ++ [c]).head?.all isBlank := by rwa [hhead, ← hrest]
          obtain ⟨before', after', rfl, hafter, hbefore, hend⟩ := ih hrest
          refine ⟨d :: before', after', rfl, hafter, ?_, hend.cons (if_pos hd)⟩
          rw [List.cons_append, squeeze_cons_blank hd, hbefore, gap, if_neg hnot, List.cons_append]

/-- A text that does not end with a blank is squeezed apart from what follows. -/
theorem squeeze_append {c : Char} (hc : isBlank c = false) (before after : Text) :
    squeeze (before ++ [c] ++ after) = squeeze (before ++ [c]) ++ squeeze after := by
  obtain ⟨s, -, hs⟩ := exists_squeeze_append before
  rw [List.append_assoc, List.singleton_append, hs c _ hc, hs c _ hc, squeeze_nil, List.append_assoc,
    List.singleton_append]

/-! ### Lower-case forms -/

theorem blankRanges_apart :
    rangesApart blankRanges caseIgnorableRanges ∧ rangesApart blankRanges casedRanges := by
  decide +kernel

theorem not_isCaseIgnorable_of_isBlank {c : Char} (hc : isBlank c) : isCaseIgnorable c = false :=
  inRanges_eq_false_of_disjoint blankRanges_apart.1 ((isBlank_eq c).symm.trans hc)

theorem not_isCased_of_isBlank {c : Char} (hc : isBlank c) : isCased c = false :=
  inRanges_eq_false_of_disjoint blankRanges_apart.2 ((isBlank_eq c).symm.trans hc)

theorem casedNext_cons (c : Char) (t : Text) :
    casedNext (c :: t) = if isCaseIgnorable c then casedNext t else isCased c := by
  rw [casedNext, List.dropWhile_cons]
  split_ifs <;> rfl

theorem casedNext_cons_blank {c : Char} (hc : isBlank c) (t : Text) :
    casedNext (c :: t) = false := by
  rw [casedNext_cons, not_isCaseIgnorable_of_isBlank hc, not_isCased_of_isBlank hc]
  rfl

theorem casedNext_squeeze (t : Text) : casedNext (squeeze t) = casedNext t := by
  induction t with
  | nil => rfl
  | cons c t ih =>
    cases hc : isBlank c with
    | true =>
      have hhead := head?_gap (squeeze t)
      rw [squeeze_cons_blank hc, casedNext_cons_blank hc]
      cases hgap : gap (squeeze t) with
      | nil => rfl
      | cons d rest =>
        rw [hgap] at hhead
        exact casedNext_cons_blank hhead rest
    | false => rw [squeeze_cons_of_not_blank hc, casedNext_cons, casedNext_cons, ih]

/-- Of the text before, only whether a letter ends it matters. -/
theorem lowerAfter_congr {before before' : Text} (h : casedNext before = casedNext before')
    (t : Text) : lowerAfter before t = lowerAfter before' t := by
  induction t generalizing before before' with
  | nil => rfl
  | cons c t ih =>
    have hnext : casedNext (c :: before) = casedNext (c :: before') := by
      rw [casedNext_cons, casedNext_cons, h]
    rw [lowerAfter, lowerAfter, lowerSigma, lowerSigma, h, ih hnext]

theorem lowerAfter_cons_blank {c : Char} (hc : isBlank c) (before t : Text) :
    lowerAfter before (c :: t) = c :: lowerAfter [] t := by
  have hletter := not_isAlphabetic_of_isBlank hc
  have hsigma : (c == 'Σ') = false := by
    rw [beq_eq_false_iff_ne]
    rintro rfl
    cases hc
  have hnext : casedNext (c :: before) = casedNext [] := casedNext_cons_blank hc before
  rw [lowerAfter, hsigma, if_neg Bool.false_ne_true, lowerChar_of_not_isAlphabetic hletter,
    lowerAfter_congr hnext, List.singleton_append]

/-- The lower-case form of a character that is no blank starts with none and has none; whether a
letter follows is all that matters of the text after. -/
theorem exists_lowerAfter_cons {c : Char} (hc : isBlank c = false) (before t : Text) :
    ∃ d form, (∀ e ∈ d :: form, isBlank e = false) ∧ ∀ u, casedNext u = casedNext t →
      lowerAfter before (c :: u) = d :: form ++ lowerAfter (c :: before) u := by
  by_cases hsigma : c = 'Σ'
  · refine ⟨lowerSigma before t, [], ?_, fun u hu => ?_⟩
    · rw [List.forall_mem_singleton, lowerSigma]
      split_ifs <;> rfl
    · rw [lowerAfter, if_pos (beq_iff_eq.2 hsigma), lowerSigma, lowerSigma, hu]
  · have hform : ∃ d form, lowerChar c = d :: form := by
      rw [lowerChar]
      split_ifs
      exacts [⟨_, _, rfl⟩, ⟨_, _, rfl⟩]
    obtain ⟨d, form, hform⟩ := hform
    refine ⟨d, form, fun e he => ?_, fun u _ => ?_⟩
    · rw [isBlank_of_mem_lowerChar (hform ▸ he), hc]
    · rw [lowerAfter, if_neg (mt beq_iff_eq.1 hsigma), hform]

theorem not_isBlank_of_mem_lowerAfter (ht : ∀ c ∈ t, isBlank c = false) (before : Text) :
    ∀ d ∈ lowerAfter before t, isBlank d = false := by
  induction t generalizing before with
  | nil => exact fun _ h => (List.not_mem_nil h).elim
  | cons c t ih =>
    rw [List.forall_mem_cons] at ht
    obtain ⟨d, form, hblank, hlower⟩ := exists_lowerAfter_cons ht.1 before t
    rw [hlower t rfl]
    exact List.forall_mem_append.2 ⟨hblank, ih ht.2 _⟩

theorem lowerAfter_gap (before t : Text) : lowerAfter before (gap t) = gap (lowerAfter [] t) := by
  cases t with
  | nil => rfl
  | cons c t =>
    cases hc : isBlank c with
    | true =>
      have hgap (u : Text) : gap (c :: u) = c :: u := gap_of_blank_head (t := c :: u) hc
      rw [hgap, lowerAfter_cons_blank hc, lowerAfter_cons_blank hc, hgap]
    | false =>
      obtain ⟨d, form, hblank, hlower⟩ := exists_lowerAfter_cons hc [] t
      have hgap (e : Char) (u : Text) (he : isBlank e = false) : gap (e :: u) = ' ' :: e :: u :=
        if_neg (Bool.eq_false_iff.1 he)
      rw [hgap c t hc, lowerAfter_cons_blank rfl, hlower t rfl, List.cons_append,
        hgap d _ (hblank d List.mem_cons_self)]

theorem squeeze_append_of_not_blank (hb : ∀ c ∈ b, isBlank c = false) (t : Text) :
    squeeze (b ++ t) = b ++ squeeze t := by
  induction b with
  | nil => rfl
  | cons c b ih =>
    rw [List.forall_mem_cons] at hb
    rw [List.cons_append, squeeze_cons_of_not_blank hb.1, ih hb.2, List.cons_append]

/-- Blanks may be squeezed before or after the lower-case form is made. -/
theorem squeeze_lowerAfter (before t : Text) :
    squeeze (lowerAfter before t) = lowerAfter before (squeeze t) := by
  induction t generalizing before with
  | nil => rfl
  | cons c t ih =>
    cases hc : isBlank c with
    | true =>
      rw [lowerAfter_cons_blank hc, squeeze_cons_blank hc, squeeze_cons_blank hc, ih,
        lowerAfter_gap]
    | false =>
      obtain ⟨d, form, hblank, hlower⟩ := exists_lowerAfter_cons hc before t
      rw [squeeze_cons_of_not_blank hc, hlower t rfl, hlower _ (casedNext_squeeze t),
        squeeze_append_of_not_blank hblank, ih]

theorem squeeze_lower (t : Text) : squeeze (lower t) = lower (squeeze t) :=
  squeeze_lowerAfter [] t

theorem trimStart_lower {c : Char} (hc : isBlank c = false) (t : Text) :
    trimStart (lower (c :: t)) = lower (c :: t) := by
  obtain ⟨d, form, hblank, hlower⟩ := exists_lowerAfter_cons hc [] t
  rw [lower, hlower t rfl]
  exact trimStart_cons_of_not_blank (hblank d List.mem_cons_self) _

theorem lower_ne_nil (h : t ≠ []) : lower t ≠ [] := by
  obtain ⟨c, t, rfl⟩ := List.exists_cons_of_ne_nil h
  intro hnil
  rw [lower, lowerAfter] at hnil
  have hform := (List.append_eq_nil_iff.1 hnil).1
  split_ifs at hform
  unfold lowerChar at hform
  split_ifs at hform

/-! ### Collapsed texts -/

/-- Words with a space before each of them. -/
def spaced (ws : List Text) : Text :=
  ws.flatMap (' ' :: ·)

theorem joinWith_cons (w : Text) (ws : List Text) : joinWith [' '] (w :: ws) = w ++ spaced ws := by
  induction ws generalizing w with
  | nil => simp [joinWith, spaced]
  | cons v ws ih =>
    have hnext : joinWith [' '] (w :: v :: ws) = w ++ ' ' :: joinWith [' '] (v :: ws) := by
      simp [joinWith, List.intercalate]
    rw [hnext, ih]
    rfl

theorem not_cut_of_mem_piecesBy {cut : Char → Bool} {piece : Text} (h : piece ∈ piecesBy cut t) :
    ∀ c ∈ piece, cut c = false := by
  induction t generalizing piece with
  | nil =>
    rw [List.mem_singleton.1 h]
    exact fun c hc => (List.not_mem_nil hc).elim
  | cons d t ih =>
    obtain ⟨first, later, hpieces⟩ := List.exists_cons_of_ne_nil (piecesBy_ne_nil cut t)
    rw [hpieces] at ih
    rw [piecesBy, hpieces] at h
    cases hd : cut d with
    | true =>
      rw [if_pos hd] at h
      rcases List.mem_cons.1 h with rfl | h
      · exact fun c hc => (List.not_mem_nil hc).elim
      · exact ih h
    | false =>
      rw [if_neg (Bool.eq_false_iff.1 hd)] at h
      rcases List.mem_cons.1 h with rfl | h
      · exact List.forall_mem_cons.2 ⟨hd, ih List.mem_cons_self⟩
      · exact ih (List.mem_cons_of_mem first h)

/-- The first stretch without blanks stays, and the words after it are spaced. -/
theorem squeeze_eq_of_piecesBy {piece : Text} {pieces : List Text}
    (h : piecesBy isBlank t = piece :: pieces) :
    squeeze t = piece ++ spaced (pieces.filter (!·.isEmpty)) := by
  induction t generalizing piece pieces with
  | nil =>
    obtain ⟨rfl, rfl⟩ := List.cons.inj h
    rfl
  | cons c t ih =>
    obtain ⟨first, later, hpieces⟩ := List.exists_cons_of_ne_nil (piecesBy_ne_nil isBlank t)
    rw [piecesBy, hpieces] at h
    cases hc : isBlank c with
    | true =>
      rw [if_pos hc] at h
      obtain ⟨rfl, rfl⟩ := List.cons.inj h
      rw [squeeze_cons_blank hc, ih hpieces]
      cases first with
      | nil =>
        change gap (spaced (later.filter (!·.isEmpty))) = spaced (later.filter (!·.isEmpty))
        cases later.filter (!·.isEmpty) <;> rfl
      | cons d first =>
        have hd : isBlank d = false :=
          not_cut_of_mem_piecesBy (hpieces ▸ List.mem_cons_self) d List.mem_cons_self
        exact if_neg (Bool.eq_false_iff.1 hd)
    | false =>
      rw [if_neg (Bool.eq_false_iff.1 hc)] at h
      obtain ⟨rfl, rfl⟩ := List.cons.inj h
      rw [squeeze_cons_of_not_blank hc, ih hpieces]
      rfl

theorem mem_words {w : Text} (h : w ∈ words t) : w ≠ [] ∧ ∀ c ∈ w, isBlank c = false := by
  obtain ⟨hmem, hne⟩ := List.mem_filter.1 h
  exact ⟨by simpa using hne, not_cut_of_mem_piecesBy hmem⟩

theorem isBlank_of_trimStart {c : Char} {rest : Text} (h : trimStart t = c :: rest) :
    isBlank c = false := by
  have hhead := List.head?_dropWhile_not isBlank t
  rw [show t.dropWhile isBlank = c :: rest from h] at hhead
  exact hhead

theorem trimStart_append_of_word {w : Text} (h : w ≠ [] ∧ ∀ c ∈ w, isBlank c = false) (s : Text) :
    trimStart (w ++ s) = w ++ s := by
  obtain ⟨c, w, rfl⟩ := List.exists_cons_of_ne_nil h.1
  exact trimStart_cons_of_not_blank (h.2 c List.mem_cons_self) _

/-- A text is collapsed by squeezing it and leaving out the blanks at its start. -/
theorem collapse_eq (t : Text) : collapse t = trimStart (squeeze t) := by
  obtain ⟨first, later, hpieces⟩ := List.exists_cons_of_ne_nil (piecesBy_ne_nil isBlank t)
  have hwords : words t = (first :: later).filter (!·.isEmpty) := by rw [words, hpieces]
  have hword {w : Text} (hw : w ∈ words t) := trimStart_append_of_word (mem_words hw)
  rw [squeeze_eq_of_piecesBy hpieces, collapse]
  cases first with
  | nil =>
    have hlater : words t = later.filter (!·.isEmpty) := hwords
    rw [← hlater]
    cases hlist : words t with
    | nil => rfl
    | cons w ws =>
      have hspaced : [] ++ spaced (w :: ws) = ' ' :: (w ++ spaced ws) := rfl
      rw [joinWith_cons, hspaced, trimStart_cons_blank rfl,
        hword (hlist ▸ List.mem_cons_self)]
  | cons c first =>
    have hfirst : words t = (c :: first) :: later.filter (!·.isEmpty) := hwords
    rw [hfirst, joinWith_cons, hword (hfirst ▸ List.mem_cons_self)]

theorem collapse_of_not_blank {c : Char} (hc : isBlank c = false) (t : Text) :
    collapse (c :: t) = squeeze (c :: t) := by
  rw [collapse_eq, trimStart_squeeze, trimStart_cons_of_not_blank hc]

/-- The blanks at the ends go first, or not. -/
theorem squeeze_trim (t : Text) : squeeze (trim t) = collapse t := by
  have hend (u : Text) : squeeze (trimEnd u) = squeeze u := by
    have hsplit : trimEnd u ++ (u.reverse.takeWhile isBlank).reverse = u := by
      rw [trimEnd, ← List.reverse_append, List.takeWhile_append_dropWhile, List.reverse_reverse]
    have hblanks : squeeze (u.reverse.takeWhile isBlank).reverse = squeeze [] :=
      squeeze_of_blanks fun c hc => List.mem_takeWhile_imp (List.mem_reverse.1 hc)
    have happend := squeeze_append_congr hblanks (trimEnd u)
    rw [hsplit, List.append_nil] at happend
    exact happend.symm
  rw [trim, hend, collapse_eq, trimStart_squeeze]

theorem squeeze_of_collapse_eq (h : collapse t = t) : squeeze t = t := by
  rw [collapse_eq] at h
  rw [← h, ← trimStart_squeeze, squeeze_squeeze]

/-- A text with characters that are no blanks at its ends. -/
def IsTrimmed (t : Text) : Prop :=
  t.head?.any (!isBlank ·) ∧ t.getLast?.any (!isBlank ·)

theorem IsTrimmed.ne_nil (h : IsTrimmed t) : t ≠ [] := by
  rintro rfl
  exact Bool.false_ne_true h.1

theorem IsTrimmed.exists_eq_cons (h : IsTrimmed t) :
    ∃ c rest, t = c :: rest ∧ isBlank c = false := by
  obtain ⟨c, rest, rfl⟩ := List.exists_cons_of_ne_nil h.ne_nil
  exact ⟨c, rest, rfl, by simpa using h.1⟩

theorem IsTrimmed.exists_eq_append (h : IsTrimmed t) :
    ∃ start c, t = start ++ [c] ∧ isBlank c = false := by
  obtain ⟨start, c, rfl⟩ := (List.eq_nil_or_concat' t).resolve_left h.ne_nil
  exact ⟨start, c, rfl, by simpa using h.2⟩

/-- Blanks around a trimmed text are dropped from it. -/
theorem IsTrimmed.trim_surround {before after : Text} (h : IsTrimmed t)
    (hbefore : ∀ c ∈ before, isBlank c) (hafter : ∀ c ∈ after, isBlank c) :
    trim (before ++ t ++ after) = t := by
  obtain ⟨c, rest, hcons, hc⟩ := h.exists_eq_cons
  obtain ⟨start, d, happend, hd⟩ := h.exists_eq_append
  have hstart : trimStart (before ++ t ++ after) = t ++ after := by
    rw [trimStart, List.append_assoc, List.dropWhile_append_of_pos hbefore, hcons, List.cons_append,
      List.dropWhile_cons_of_neg (Bool.eq_false_iff.1 hc)]
  rw [trim, hstart, trimEnd, List.reverse_append,
    List.dropWhile_append_of_pos fun e he => hafter e (List.mem_reverse.1 he), happend,
    List.reverse_concat, List.dropWhile_cons_of_neg (Bool.eq_false_iff.1 hd), List.reverse_cons,
    List.reverse_reverse]

theorem IsTrimmed.trim_eq (h : IsTrimmed t) : trim t = t := by
  simpa using h.trim_surround (List.forall_mem_nil _) (List.forall_mem_nil _)

/-- A text that starts with a trimmed one and ends with a trimmed one is trimmed. -/
theorem IsTrimmed.append {s : Text} (hs : IsTrimmed s) (ht : IsTrimmed t) (between : Text) :
    IsTrimmed (s ++ between ++ t) := by
  constructor
  · rw [List.append_assoc, List.head?_append_of_ne_nil s hs.ne_nil]
    exact hs.1
  · rw [List.getLast?_append_of_ne_nil _ ht.ne_nil]
    exact ht.2

theorem getLast?_squeeze (t : Text) : (squeeze t).getLast?.all (!isBlank ·) := by
  induction t with
  | nil => rfl
  | cons c t ih =>
    have hcons (d : Char) (hd : squeeze t = [] → isBlank d = false) :
        (d :: squeeze t).getLast?.all (!isBlank ·) := by
      cases hrest : squeeze t with
      | nil => simpa using hd hrest
      | cons e rest => rwa [List.getLast?_cons_cons, ← hrest]
    cases hc : isBlank c with
    | true =>
      rw [squeeze_cons_blank hc, gap]
      split_ifs with hhead
      · exact ih
      · exact hcons ' ' fun hnil => absurd (by rw [hnil]; rfl) hhead
    | false =>
      rw [squeeze_cons_of_not_blank hc]
      exact hcons c fun _ => hc

theorem collapse_lower (h : collapse t = t) : collapse (lower t) = lower t := by
  cases t with
  | nil => rfl
  | cons c t =>
    have hhead : isBlank c = false := isBlank_of_trimStart ((collapse_eq _).symm.trans h)
    rw [collapse_eq, squeeze_lower, squeeze_of_collapse_eq h, trimStart_lower hhead]

theorem isTrimmed_of_collapse_eq (hne : t ≠ []) (h : collapse t = t) : IsTrimmed t := by
  obtain ⟨c, rest, rfl⟩ := List.exists_cons_of_ne_nil hne
  have hlast := getLast?_squeeze (c :: rest)
  rw [squeeze_of_collapse_eq h, List.getLast?_cons] at hlast
  have hhead : isBlank c = false := isBlank_of_trimStart ((collapse_eq _).symm.trans h)
  refine ⟨?_, ?_⟩
  · rw [List.head?_cons, Option.any_some, hhead]
    rfl
  · rwa [List.getLast?_cons]

@[simp] theorem collapse_collapse (t : Text) : collapse (collapse t) = collapse t := by
  rw [collapse_eq, collapse_eq, ← trimStart_squeeze, trimStart_trimStart, squeeze_squeeze]

theorem trim_collapse (t : Text) : trim (collapse t) = collapse t := by
  by_cases hnil : collapse t = []
  · rw [hnil]
    rfl
  · exact (isTrimmed_of_collapse_eq hnil (collapse_collapse t)).trim_eq

theorem trimStart_append_cons {c : Char} (hc : isBlank c = false) (t rest : Text) :
    trimStart (t ++ c :: rest) = trimStart t ++ c :: rest := by
  induction t with
  | nil => exact trimStart_cons_of_not_blank hc rest
  | cons d t ih =>
    cases hd : isBlank d with
    | true => rw [List.cons_append, trimStart_cons_blank hd, trimStart_cons_blank hd, ih]
    | false =>
      rw [List.cons_append, trimStart_cons_of_not_blank hd, trimStart_cons_of_not_blank hd,
        List.cons_append]

/-- Blanks at the start do not show at the end. -/
theorem any_getLast?_trimStart {p : Char → Bool} (hp : ∀ c, isBlank c → p c = false) (t : Text) :
    (trimStart t).getLast?.any p = t.getLast?.any p := by
  induction t with
  | nil => rfl
  | cons c t ih =>
    cases hc : isBlank c with
    | true =>
      rw [trimStart_cons_blank hc, ih]
      cases t with
      | nil => exact (hp c hc).symm
      | cons d t => rw [List.getLast?_cons_cons]
    | false => rw [trimStart_cons_of_not_blank hc]

/-! ### Plain texts -/

/-- The squeezed text with ASCII capitals made small. -/
def plain (t : Text) : Text :=
  squeeze (asciiLower t)

@[simp] theorem plain_nil : plain [] = [] := rfl

theorem plain_cons_blank {c : Char} (hc : isBlank c) (t : Text) : plain (c :: t) = gap (plain t) :=
  squeeze_cons_blank ((isBlank_asciiLowerChar c).trans hc) (asciiLower t)

theorem plain_cons_of_not_blank {c : Char} (hc : isBlank c = false) (t : Text) :
    plain (c :: t) = asciiLowerChar c :: plain t :=
  squeeze_cons_of_not_blank ((isBlank_asciiLowerChar c).trans hc) (asciiLower t)

theorem trimStart_asciiLower (t : Text) : trimStart (asciiLower t) = asciiLower (trimStart t) := by
  rw [trimStart, asciiLower, List.dropWhile_map, trimStart, asciiLower]
  exact congrArg _ (congrArg (List.dropWhile · t) (funext isBlank_asciiLowerChar))

theorem trimStart_plain (t : Text) : trimStart (plain t) = plain (trimStart t) := by
  rw [plain, trimStart_squeeze, trimStart_asciiLower, plain]

theorem plain_append_congr (h : plain t = plain u) (s : Text) : plain (s ++ t) = plain (s ++ u) := by
  rw [plain, plain, asciiLower, asciiLower, List.map_append, List.map_append]
  exact squeeze_append_congr h _

theorem forall_isBlank_asciiLower (hb : ∀ c ∈ b, isBlank c) : ∀ c ∈ asciiLower b, isBlank c :=
  List.forall_mem_map.2 fun c hc => (isBlank_asciiLowerChar c).trans (hb c hc)

theorem plain_blanks_append (hne : b ≠ []) (hb : ∀ c ∈ b, isBlank c) (t : Text) :
    plain (b ++ t) = gap (plain t) := by
  rw [plain, asciiLower, List.map_append]
  exact squeeze_blanks_append (mt List.map_eq_nil_iff.1 hne) (forall_isBlank_asciiLower hb) _

theorem plain_append_blanks (hb : ∀ c ∈ b, isBlank c) (t : Text) : plain (t ++ b) = plain t := by
  have hnil : plain b = plain [] := squeeze_of_blanks (forall_isBlank_asciiLower hb)
  rw [plain_append_congr hnil, List.append_nil]

theorem asciiLower_squeeze (t : Text) : asciiLower (squeeze t) = squeeze (asciiLower t) :=
  map_squeeze isBlank_asciiLowerChar rfl t

/-- Collapsing a text changes its plain form at the start only. -/
theorem trimStart_plain_collapse (t : Text) :
    trimStart (plain (collapse t)) = trimStart (plain t) := by
  rw [collapse_eq, plain, ← trimStart_asciiLower, ← trimStart_squeeze, trimStart_trimStart,
    asciiLower_squeeze, squeeze_squeeze, plain]

/-! ### Restyled texts -/

/-- One change of a text: the case of an ASCII letter, another run of blanks for one that is there,
or more blanks at an end. -/
inductive Restyling : Text → Text → Prop
  | recase {c d : Char} (h : asciiLowerChar c = asciiLowerChar d) (before after : Text) :
      Restyling (before ++ c :: after) (before ++ d :: after)
  | respace {run other : Text} (hrun : run ≠ [] ∧ ∀ c ∈ run, isBlank c)
      (hother : other ≠ [] ∧ ∀ c ∈ other, isBlank c) (before after : Text) :
      Restyling (before ++ run ++ after) (before ++ other ++ after)
  | padStart {b : Text} (hb : ∀ c ∈ b, isBlank c) (t : Text) : Restyling t (b ++ t)
  | padEnd {b : Text} (hb : ∀ c ∈ b, isBlank c) (t : Text) : Restyling t (t ++ b)

/-- Texts are restyled into each other by such changes, one after another and in both directions. -/
def Restyled : Text → Text → Prop :=
  Relation.EqvGen Restyling

/-- A change leaves the plain form as it is, but for blanks at the start. -/
theorem Restyling.plain_eq (h : Restyling t u) : trimStart (plain t) = trimStart (plain u) := by
  cases h with
  | @recase c d h before after =>
    have hblank : isBlank c = isBlank d := by
      rw [← isBlank_asciiLowerChar c, h, isBlank_asciiLowerChar]
    have hcons : plain (c :: after) = plain (d :: after) := by
      cases hc : isBlank c with
      | true => rw [plain_cons_blank hc, plain_cons_blank (hblank ▸ hc)]
      | false => rw [plain_cons_of_not_blank hc, plain_cons_of_not_blank (hblank ▸ hc), h]
    rw [plain_append_congr hcons]
  | respace hrun hother before after =>
    have hgap := (plain_blanks_append hrun.1 hrun.2 after).trans
      (plain_blanks_append hother.1 hother.2 after).symm
    rw [List.append_assoc, List.append_assoc, plain_append_congr hgap]
  | @padStart b hb =>
    cases b with
    | nil => rfl
    | cons c b => rw [plain_blanks_append (List.cons_ne_nil c b) hb, trimStart_gap]
  | padEnd hb => rw [plain_append_blanks hb]

theorem Restyled.plain_eq (h : Restyled t u) : trimStart (plain t) = trimStart (plain u) := by
  induction h with
  | rel _ _ h => exact h.plain_eq
  | refl => rfl
  | symm _ _ _ ih => exact ih.symm
  | trans _ _ _ _ _ ih ih' => exact ih.trans ih'

end Text

end Playbill
