import Playbill.Proofs.Text.Squeeze
import Playbill.RelativeDay.Words

/-!
# Day words in a text

* `DayWords.StandsIn`: a stretch of some kind stands between boundaries in a text;
  `DayWords.holdsWord_iff`: what is searched for are the stretches that spell a word of the list.
* `DayWords.Names`, `DayWords.NamesLoosely`: a list names a text by a word that is spelt as in the
  list, or with any run of blanks for a space.
* `DayWords.standsIn_collapse_iff`: the stretches of a collapsed text.
* `DayWords.matchesText_collapse_iff`, `DayWords.Names.namesLoosely`: a list matches the collapsed
  text exactly if it names the text loosely, as it does wherever it matches the text itself.
-/

namespace Playbill

open Text

namespace DayWords

/-! ### Stretches between boundaries -/

/-- A stretch spells a word, case aside. -/
def Spells (word stretch : Text) : Prop :=
  stretch.map foldChar = word.map foldChar

/-- A stretch of some kind stands between boundaries in a text that follows a character. -/
def StandsAfter (before : Option Char) (kind : Text → Prop) (t : Text) : Prop :=
  ∃ skipped stretch rest, t = skipped ++ (stretch ++ rest) ∧ kind stretch ∧
    isBoundary (skipped.getLast?.or before) (stretch ++ rest).head? ∧
    isBoundary ((skipped ++ stretch).getLast?.or before) rest.head?

/-- A stretch of some kind stands between boundaries in a text. -/
def StandsIn (kind : Text → Prop) (t : Text) : Prop :=
  StandsAfter none kind t

variable {kind : Text → Prop} {before last : Option Char} {w t rest : Text}

theorem passWord?_eq_some_iff : passWord? w before t = some (last, rest) ↔
    ∃ stretch, t = stretch ++ rest ∧ Spells w stretch ∧ last = stretch.getLast?.or before := by
  induction w generalizing before t with
  | nil =>
    constructor
    · intro h
      obtain ⟨rfl, rfl⟩ := Prod.mk.inj (Option.some.inj h)
      exact ⟨[], rfl, rfl, rfl⟩
    · rintro ⟨stretch, rfl, hspells, rfl⟩
      obtain rfl := List.map_eq_nil_iff.1 hspells
      rfl
  | cons d w ih =>
    cases t with
    | nil =>
      refine iff_of_false nofun ?_
      rintro ⟨stretch, ht, hspells, -⟩
      rw [(List.append_eq_nil_iff.1 ht.symm).1] at hspells
      cases hspells
    | cons c t =>
      have hcases : passWord? (d :: w) before (c :: t) = some (last, rest) ↔
          foldChar c = foldChar d ∧ passWord? w (some c) t = some (last, rest) := by
        rw [passWord?]
        split_ifs with hfold
        · exact (and_iff_right (beq_iff_eq.1 hfold).symm).symm
        · exact iff_of_false nofun fun h => hfold (beq_iff_eq.2 h.1.symm)
      rw [hcases, ih]
      constructor
      · rintro ⟨hfold, stretch, rfl, hspells, rfl⟩
        exact ⟨c :: stretch, rfl, List.cons_eq_cons.2 ⟨hfold, hspells⟩, (getLast?_cons_or c _ _).symm⟩
      · rintro ⟨stretch, ht, hspells, rfl⟩
        cases stretch with
        | nil => cases hspells
        | cons e stretch =>
          obtain ⟨rfl, rfl⟩ := List.cons.inj ht
          obtain ⟨hfold, hspells⟩ := List.cons_eq_cons.1 hspells
          exact ⟨hfold, stretch, rfl, hspells, getLast?_cons_or c _ _⟩

theorem startsWithWord_iff : startsWithWord before t w ↔
    ∃ stretch rest, t = stretch ++ rest ∧ Spells w stretch ∧ isBoundary before t.head? ∧
      isBoundary (stretch.getLast?.or before) rest.head? := by
  rw [startsWithWord, Bool.and_eq_true]
  constructor
  · rintro ⟨hstart, hend⟩
    split at hend
    · rename_i last rest hpass
      obtain ⟨stretch, ht, hspells, rfl⟩ := passWord?_eq_some_iff.1 hpass
      exact ⟨stretch, rest, ht, hspells, hstart, hend⟩
    · cases hend
  · rintro ⟨stretch, rest, ht, hspells, hstart, hend⟩
    refine ⟨hstart, ?_⟩
    rw [passWord?_eq_some_iff.2 ⟨stretch, ht, hspells, rfl⟩]
    exact hend

/-- The stretch stands at the start, or after the first character. -/
theorem standsAfter_cons_iff {c : Char} : StandsAfter before kind (c :: t) ↔
    (∃ stretch rest, c :: t = stretch ++ rest ∧ kind stretch ∧
      isBoundary before (c :: t).head? ∧ isBoundary (stretch.getLast?.or before) rest.head?) ∨
    StandsAfter (some c) kind t := by
  constructor
  · rintro ⟨skipped, stretch, rest, ht, hkind, hstart, hend⟩
    cases skipped with
    | nil => exact .inl ⟨stretch, rest, ht, hkind, ht ▸ hstart, hend⟩
    | cons d skipped =>
      obtain ⟨rfl, rfl⟩ := List.cons.inj ht
      rw [getLast?_cons_or] at hstart
      rw [List.cons_append, getLast?_cons_or] at hend
      exact .inr ⟨skipped, stretch, rest, rfl, hkind, hstart, hend⟩
  · rintro (⟨stretch, rest, ht, hkind, hstart, hend⟩ |
      ⟨skipped, stretch, rest, rfl, hkind, hstart, hend⟩)
    · exact ⟨[], stretch, rest, ht, hkind, ht ▸ hstart, hend⟩
    · refine ⟨c :: skipped, stretch, rest, rfl, hkind, ?_, ?_⟩
      · rwa [getLast?_cons_or]
      · rwa [List.cons_append, getLast?_cons_or]

theorem holdsWord_iff {words : List Text} :
    holdsWord words before t ↔ ∃ w ∈ words, StandsAfter before (Spells w) t := by
  induction t generalizing before with
  | nil =>
    rw [holdsWord, List.any_eq_true]
    refine exists_congr fun w => and_congr_right fun _ => startsWithWord_iff.trans ?_
    constructor
    · rintro ⟨stretch, rest, ht, hspells, hstart, hend⟩
      exact ⟨[], stretch, rest, ht, hspells, ht ▸ hstart, hend⟩
    · rintro ⟨skipped, stretch, rest, ht, hspells, hstart, hend⟩
      obtain ⟨rfl, hrest⟩ := List.append_eq_nil_iff.1 ht.symm
      exact ⟨stretch, rest, ht, hspells, ht ▸ hstart, hend⟩
  | cons c t ih =>
    rw [holdsWord, Bool.or_eq_true, List.any_eq_true, ih, ← exists_or]
    refine exists_congr fun w => ?_
    rw [standsAfter_cons_iff, startsWithWord_iff, and_or_left]

/-! ### Boundaries and blanks -/

theorem not_isWordChar_of_isBlank (c : Char) (hc : isBlank c) : isWordChar c = false := by
  have hapart {ranges : List (Nat × Nat)} (h : rangesApart blankRanges ranges) :
      inRanges ranges c = false :=
    inRanges_eq_false_of_disjoint h ((isBlank_eq c).symm.trans hc)
  have hletter : isAlphabetic c = false := not_isAlphabetic_of_isBlank hc
  have hmark : isMark c = false := hapart (by decide +kernel)
  have hdigit : isDecimalDigit c = false := hapart (by decide +kernel)
  have hconnector : isConnector c = false := hapart (by decide +kernel)
  have hjoin : isJoinControl c = false := by
    have hcode : inRanges [(0x200C, 0x200D)] c = false := hapart (by decide)
    simp only [inRanges, List.any_cons, List.any_nil, Bool.or_false, Bool.and_eq_false_iff,
      decide_eq_false_iff_not] at hcode
    rw [isJoinControl, Bool.or_eq_false_iff, decide_eq_false_iff_not, decide_eq_false_iff_not]
    omega
  rw [isWordChar, hletter, hmark, hdigit, hconnector, hjoin]
  rfl

theorem isBoundary_congr {a a' b b' : Option Char} (ha : a.any isWordChar = a'.any isWordChar)
    (hb : b.any isWordChar = b'.any isWordChar) : isBoundary a b = isBoundary a' b' := by
  rw [isBoundary, isBoundary, ha, hb]

section

variable {stretch : Text}

theorem Spells.map_isBlank (h : Spells w stretch) : stretch.map isBlank = w.map isBlank := by
  have hfold : isBlank ∘ foldChar = isBlank := funext isBlank_foldChar
  rw [← hfold, ← List.map_map, h, List.map_map]

theorem Spells.isTrimmed (h : Spells w stretch) (hw : IsTrimmed w) : IsTrimmed stretch := by
  have hany (o : Option Char) : o.any (!isBlank ·) = (o.map isBlank).any (!·) := by
    cases o <;> rfl
  have hmap := h.map_isBlank
  refine ⟨?_, ?_⟩
  · rw [hany, ← List.head?_map, hmap, List.head?_map, ← hany]
    exact hw.1
  · rw [hany, ← List.getLast?_map, hmap, List.getLast?_map, ← hany]
    exact hw.2

/-- Squeezing a stretch squeezes the word that it spells. -/
theorem Spells.squeeze (h : Spells w stretch) : Spells (squeeze w) (squeeze stretch) := by
  rw [Spells, map_squeeze isBlank_foldChar rfl, h, map_squeeze isBlank_foldChar rfl]

/-- A stretch spells a word, case and the length of runs of blanks aside. -/
def SpellsLoosely (w stretch : Text) : Prop :=
  IsTrimmed stretch ∧ Spells w (collapse stretch)

theorem Spells.spellsLoosely (h : Spells w stretch) (hne : w ≠ []) (hw : collapse w = w) :
    SpellsLoosely w stretch := by
  have htrimmed := h.isTrimmed (isTrimmed_of_collapse_eq hne hw)
  refine ⟨htrimmed, ?_⟩
  obtain ⟨c, rest, rfl, hc⟩ := htrimmed.exists_eq_cons
  have hsqueezed := h.squeeze
  rwa [squeeze_of_collapse_eq hw, ← collapse_of_not_blank hc] at hsqueezed

end

/-- A stretch that is not empty stands between boundaries of its own characters. -/
theorem standsIn_iff (hkind : ∀ stretch, kind stretch → stretch ≠ []) : StandsIn kind t ↔
    ∃ skipped stretch rest, t = skipped ++ (stretch ++ rest) ∧ kind stretch ∧
      isBoundary skipped.getLast? stretch.head? ∧ isBoundary stretch.getLast? rest.head? := by
  refine exists_congr fun skipped => exists_congr fun stretch => exists_congr fun rest =>
    and_congr_right fun _ => and_congr_right fun hstretch => ?_
  have hne := hkind stretch hstretch
  rw [Option.or_none, Option.or_none, List.head?_append_of_ne_nil _ hne,
    List.getLast?_append_of_ne_nil _ hne]

/-- Blanks at the start of a text make no boundaries, nor do they begin a trimmed stretch. -/
theorem standsIn_trimStart_iff (hkind : ∀ stretch, kind stretch → IsTrimmed stretch) :
    StandsIn kind (trimStart t) ↔ StandsIn kind t := by
  have hne (stretch : Text) (h : kind stretch) := (hkind stretch h).ne_nil
  have htrim (skipped : Text) {stretch : Text} (h : kind stretch) (rest : Text) :
      trimStart (skipped ++ (stretch ++ rest)) = trimStart skipped ++ (stretch ++ rest) := by
    obtain ⟨c, stretch, rfl, hc⟩ := (hkind stretch h).exists_eq_cons
    exact trimStart_append_cons hc skipped (stretch ++ rest)
  have hlast (skipped : Text) := any_getLast?_trimStart not_isWordChar_of_isBlank skipped
  rw [standsIn_iff hne, standsIn_iff hne]
  constructor
  · rintro ⟨skipped, stretch, rest, ht, hstretch, hstart, hend⟩
    have hwhole := takeWhile_append_trimStart t
    rw [ht, ← List.append_assoc] at hwhole
    have hskipped : trimStart (t.takeWhile isBlank ++ skipped) = skipped := by
      have htrimmed := htrim (t.takeWhile isBlank ++ skipped) hstretch rest
      rw [hwhole, ht] at htrimmed
      exact (List.append_cancel_right htrimmed).symm
    refine ⟨_, stretch, rest, hwhole.symm, hstretch, ?_, hend⟩
    rwa [isBoundary_congr (hlast _).symm rfl, hskipped]
  · rintro ⟨skipped, stretch, rest, rfl, hstretch, hstart, hend⟩
    refine ⟨trimStart skipped, stretch, rest, htrim skipped hstretch rest, hstretch, ?_, hend⟩
    rwa [isBoundary_congr (hlast skipped) rfl]

/-- A word is spelt in the squeezed text where it is spelt loosely in the text. -/
theorem standsIn_squeeze_iff (hw : IsTrimmed w) :
    StandsIn (Spells w) (squeeze t) ↔ StandsIn (SpellsLoosely w) t := by
  have hhead (rest : Text) := any_head?_squeeze not_isWordChar_of_isBlank rest
  rw [standsIn_iff fun stretch h => (Spells.isTrimmed h hw).ne_nil,
    standsIn_iff fun stretch h => IsTrimmed.ne_nil h.1]
  constructor
  · rintro ⟨skipped, stretch, rest, ht, hspells, hstart, hend⟩
    obtain ⟨c, tail, hcons, hc⟩ := (hspells.isTrimmed hw).exists_eq_cons
    obtain ⟨start, d, happend, hd⟩ := (hspells.isTrimmed hw).exists_eq_append
    have hlast : squeeze t = skipped ++ start ++ d :: rest := by
      rw [ht, happend, List.append_assoc, List.append_assoc, List.singleton_append]
    obtain ⟨upTo, rest', rfl, rfl, hupTo, -⟩ := exists_of_squeeze_eq hd hlast
    rw [List.append_assoc, ← happend, hcons] at hupTo
    obtain ⟨skipped', tail', hsplit, htail, -, halike⟩ := exists_of_squeeze_eq hc hupTo
    have hsqueezed : squeeze (c :: tail') = stretch := by
      rw [squeeze_cons_of_not_blank hc, htail, hcons]
    have hend' : (c :: tail').getLast? = stretch.getLast? := by
      rw [← List.getLast?_append_of_ne_nil skipped' (List.cons_ne_nil c tail'), ← hsplit, happend,
        List.getLast?_concat, List.getLast?_concat]
    refine ⟨skipped', c :: tail', rest', ?_, ⟨⟨?_, ?_⟩, ?_⟩, ?_, ?_⟩
    · rw [← List.append_assoc, ← hsplit, List.append_assoc, List.singleton_append]
    · rw [List.head?_cons, Option.any_some, hc]
      rfl
    · rw [hend', happend, List.getLast?_concat, Option.any_some, hd]
      rfl
    · rwa [collapse_of_not_blank hc, hsqueezed]
    · rw [isBoundary_congr (halike.any_eq not_isWordChar_of_isBlank) rfl]
      rwa [hcons] at hstart
    · rwa [hend', isBoundary_congr rfl (hhead rest').symm]
  · rintro ⟨skipped, stretch, rest, rfl, ⟨htrimmed, hspells⟩, hstart, hend⟩
    obtain ⟨c, tail, hcons, hc⟩ := htrimmed.exists_eq_cons
    obtain ⟨start, d, happend, hd⟩ := htrimmed.exists_eq_append
    obtain ⟨skipped', halike, hsqueeze⟩ := exists_squeeze_append skipped
    have hsplit : squeeze (stretch ++ rest) = squeeze stretch ++ squeeze rest := by
      rw [happend, squeeze_append hd]
    rw [hcons, collapse_of_not_blank hc, ← hcons] at hspells
    refine ⟨skipped', squeeze stretch, squeeze rest, ?_, hspells, ?_, ?_⟩
    · rw [← hsplit, hcons, List.cons_append, hsqueeze c _ hc, squeeze_cons_of_not_blank hc]
    · rw [hcons, squeeze_cons_of_not_blank hc,
        isBoundary_congr (halike.any_eq not_isWordChar_of_isBlank) rfl]
      rwa [hcons] at hstart
    · obtain ⟨start', -, hstart'⟩ := exists_squeeze_append start
      rw [happend, hstart' d [] hd, squeeze_nil, List.getLast?_concat,
        isBoundary_congr rfl (hhead rest)]
      rwa [happend, List.getLast?_concat] at hend

theorem standsIn_collapse_iff (hw : IsTrimmed w) :
    StandsIn (Spells w) (collapse t) ↔ StandsIn (SpellsLoosely w) t := by
  rw [collapse_eq, standsIn_trimStart_iff fun stretch h => h.isTrimmed hw, standsIn_squeeze_iff hw]

/-! ### Lists -/

/-- A list names a text by being one of its words, blanks at the ends and case aside, or by a word
that is spelt between boundaries. -/
def Names (list : DayWords) (t : Text) : Prop :=
  lower (trim t) ∈ list.words ∨ ∃ w ∈ list.words, StandsIn (Spells w) t

/-- The same, whatever the length of runs of blanks. -/
def NamesLoosely (list : DayWords) (t : Text) : Prop :=
  lower (collapse t) ∈ list.words ∨ ∃ w ∈ list.words, StandsIn (SpellsLoosely w) t

/-- There are words, and each is written without blanks but for single spaces in it. -/
def WellSpaced (list : DayWords) : Prop :=
  list.words ≠ [] ∧ ∀ w ∈ list.words, w ≠ [] ∧ collapse w = w

variable {list : DayWords}

/-- Words that are well spaced have lower-case forms that are. -/
theorem wellSpaced_ofList {words : List Text}
    (h : !words.isEmpty && words.all fun w => !w.isEmpty && collapse w == w) :
    (ofList words).WellSpaced := by
  simp only [Bool.and_eq_true, Bool.not_eq_true', List.isEmpty_eq_false_iff, List.all_eq_true,
    beq_iff_eq] at h
  refine ⟨mt List.map_eq_nil_iff.1 h.1, List.forall_mem_map.2 fun w hw => ?_⟩
  exact ⟨lower_ne_nil (h.2 w hw).1, collapse_lower (h.2 w hw).2⟩

theorem matchesText_iff (h : list.words ≠ []) : list.matchesText t ↔ list.Names t := by
  have hsearched : list.searched = list.words := by
    rw [searched, if_neg (mt List.isEmpty_iff.1 h)]
  rw [matchesText, Bool.or_eq_true, List.contains_iff_mem, holdsWord_iff, hsearched]
  rfl

/-- A list matches its words themselves. -/
theorem matchesText_of_mem {words : List Text} (ht : trim t = t) (h : t ∈ words) :
    (ofList words).matchesText t := by
  have hmem : lower (trim t) ∈ (ofList words).words := by
    rw [ht]
    exact List.mem_map_of_mem h
  rw [matchesText, List.contains_iff_mem.2 hmem, Bool.true_or]

theorem matchesText_of_standsIn {words : List Text} (h : w ∈ words)
    (hstands : StandsIn (Spells (lower w)) t) : (ofList words).matchesText t := by
  have hmem : lower w ∈ (ofList words).words := List.mem_map_of_mem h
  exact (matchesText_iff (List.ne_nil_of_mem hmem)).2 (.inr ⟨_, hmem, hstands⟩)

theorem matchesText_collapse_iff (h : list.WellSpaced) :
    list.matchesText (collapse t) ↔ list.NamesLoosely t := by
  rw [matchesText_iff h.1]
  refine or_congr ?_ (exists_congr fun w => and_congr_right fun hw => ?_)
  · rw [trim_collapse]
  · exact standsIn_collapse_iff (isTrimmed_of_collapse_eq (h.2 w hw).1 (h.2 w hw).2)

theorem Names.namesLoosely (h : list.WellSpaced) (hnames : list.Names t) :
    list.NamesLoosely t := by
  refine hnames.imp (fun hmem => ?_) ?_
  · have hlower : lower (collapse t) = lower (trim t) := by
      rw [← squeeze_trim, ← squeeze_lower, squeeze_of_collapse_eq (h.2 _ hmem).2]
    rwa [hlower]
  · rintro ⟨w, hw, skipped, stretch, rest, ht, hspells, hbounds⟩
    exact ⟨w, hw, skipped, stretch, rest, ht,
      hspells.spellsLoosely (h.2 w hw).1 (h.2 w hw).2, hbounds⟩

end DayWords

end Playbill
