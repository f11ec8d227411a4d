import Playbill.Proofs.DatePattern.Restyling
import Playbill.Proofs.RelativeDay.LeapDay
import Playbill.Proofs.RelativeDay.Words

/-!
# Relative days of collapsed texts

A text that no format fits names a day by the furthest of three word lists that matches it.  When its
blanks are collapsed more words may be found, and a list for a later day may come to match.

* `Date.number_of_next?`, `DateReader.number_of_laterDay?`: every day further is one more.
* `DateReader.furthest?_eq_iff`: when two ways of matching find the same day.
* `DateReader.read_of_noFormat`: the day of a text that no format fits.
* `DateReader.read_collapse`: when collapsing the blanks changes nothing.
-/

namespace Playbill

open Text

/-- Every day of the calendar but the last is followed by the one with the next number. -/
theorem Date.number_of_next? {d e : Date} (h : d.next? = some e) : e.number = d.number + 1 := by
  have hday := d.day_mem
  have hmonth := d.month_mem
  unfold Date.next? at h
  split_ifs at h with hwithin hearly
  · obtain ⟨hyear, hsame, hnext⟩ := Date.of?_eq_some_iff.1 h
    rw [Date.number, Date.number, hyear, hsame, hnext]
    omega
  · obtain ⟨hyear, hnext, hfirst⟩ := Date.of?_eq_some_iff.1 h
    rw [Date.number, Date.number, hyear, hnext, hfirst,
      DateTime.daysBeforeMonth_succ d.year hmonth.1]
    omega
  · obtain ⟨hnext, hjanuary, hfirst⟩ := Date.of?_eq_some_iff.1 h
    have hlast := DateTime.daysBeforeMonth_succ d.year hmonth.1
    have hyear := DateTime.startOfYear_succ_eq d.year
    have hstart : Date.daysBeforeMonth (d.year + 1) 1 = 0 := rfl
    rw [show d.month + 1 = 13 by omega] at hlast
    rw [Date.number, Date.number, hnext, hjanuary, hfirst, hstart]
    unfold DateTime.startOfYear at hyear
    omega

/-- The point in time of a date that was understood. -/
def EventDate.value? : EventDate → Option DateTime
  | .valid value => some value
  | .invalid _ => none

namespace DateReader

/-! ### Days from a date on -/

theorem number_of_laterDay? {date later : Date} {days : Nat}
    (h : laterDay? date days = some later) : later.number = date.number + days := by
  induction days generalizing later with
  | zero =>
    cases h
    exact (Int.add_zero _).symm
  | succ days ih =>
    obtain ⟨last, hlast, hnext⟩ := Option.bind_eq_some_iff.1 h
    rw [Date.number_of_next? hnext, ih hlast, Nat.cast_succ, Int.add_assoc]

theorem laterDay?_isSome_of_le {date : Date} {days more : Nat} (hle : days ≤ more)
    (h : (laterDay? date more).isSome) : (laterDay? date days).isSome := by
  induction more, hle using Nat.le_induction with
  | base => exact h
  | succ more _ ih =>
    obtain ⟨later, hlater⟩ := Option.isSome_iff_exists.1 h
    obtain ⟨last, hlast, -⟩ := Option.bind_eq_some_iff.1 hlater
    exact ih (Option.isSome_iff_exists.2 ⟨last, hlast⟩)

/-! ### The furthest list -/

/-- The lists of relative words with the days they name, the furthest day first. -/
def dayLists : List (Nat × DayWords) :=
  [(2, wordsForDayAfter), (1, wordsForTomorrow), (0, wordsForToday)]

/-- The days of the first list that is found. -/
def furthest? (found : DayWords → Bool) (lists : List (Nat × DayWords)) : Option Nat :=
  (lists.find? fun entry => found entry.2).map Prod.fst

-- Stated for any three lists, since the kernel would look into the built-in ones.
theorem furthest?_three (found : DayWords → Bool) (dayAfter tomorrow today : DayWords) :
    furthest? found [(2, dayAfter), (1, tomorrow), (0, today)] =
      if found dayAfter then some 2 else if found tomorrow then some 1
      else if found today then some 0 else none := by
  rw [furthest?, List.find?_cons, List.find?_cons, List.find?_cons, List.find?_nil]
  cases found dayAfter <;> cases found tomorrow <;> cases found today <;> rfl

theorem relativeDays?_eq (t : Text) :
    relativeDays? t = furthest? (·.matchesText t) dayLists := by
  rw [relativeDays?, dayLists, furthest?_three]

/-- Of two ways to find lists, one of which finds more, both find the same day exactly if for every
list that the one finds the other finds a list as far. -/
theorem furthest?_eq_iff {found more : DayWords → Bool} {lists : List (Nat × DayWords)}
    (hsorted : lists.Pairwise fun entry other => other.1 < entry.1)
    (hmore : ∀ entry ∈ lists, found entry.2 → more entry.2) :
    furthest? found lists = furthest? more lists ↔
      ∀ entry ∈ lists, more entry.2 → ∃ other ∈ lists, entry.1 ≤ other.1 ∧ found other.2 := by
  induction lists with
  | nil => exact iff_of_true rfl fun _ h => (List.not_mem_nil h).elim
  | cons first lists ih =>
    obtain ⟨hfurther, hsorted⟩ := List.pairwise_cons.1 hsorted
    rw [List.forall_mem_cons] at hmore
    have hcons {found : DayWords → Bool} : furthest? found (first :: lists) =
        if found first.2 then some first.1 else furthest? found lists := by
      rw [furthest?, List.find?_cons]
      cases found first.2 <;> rfl
    rw [hcons, hcons, List.forall_mem_cons]
    by_cases hfound : found first.2
    · rw [if_pos hfound, if_pos (hmore.1 hfound)]
      refine iff_of_true rfl ⟨fun _ => ⟨first, List.mem_cons_self, le_rfl, hfound⟩, ?_⟩
      exact fun entry hentry _ => ⟨first, List.mem_cons_self, (hfurther entry hentry).le, hfound⟩
    · rw [if_neg hfound]
      have hlater {days : Nat} : (∃ other ∈ first :: lists, days ≤ other.1 ∧ found other.2) ↔
          ∃ other ∈ lists, days ≤ other.1 ∧ found other.2 := by
        rw [List.exists_mem_cons_iff, or_iff_right fun h => hfound h.2]
      simp only [hlater]
      by_cases hmore' : more first.2
      · -- No later list is as far as the first.
        rw [if_pos hmore']
        refine iff_of_false (fun h => ?_) fun h => ?_
        · obtain ⟨entry, hentry, hdays⟩ := Option.map_eq_some_iff.1 h
          exact (hfurther entry (List.mem_of_find?_eq_some hentry)).ne hdays
        · obtain ⟨other, hother, hle, -⟩ := h.1 hmore'
          exact (hfurther other hother).not_ge hle
      · rw [if_neg hmore', ih hsorted hmore.2]
        exact (and_iff_right fun h => absurd h hmore').symm

/-! ### Built-in lists -/

theorem wordList_ofList (t : Text) :
    wordList (String.ofList t) = .ofList ((pieces ',' t).map trim) := by
  rw [wordList, String.toList_ofList]

theorem wellSpaced_of_mem_dayLists : ∀ entry ∈ dayLists, entry.2.WellSpaced := by
  unfold dayLists wordsForDayAfter wordsForTomorrow wordsForToday
  -- The kernel takes long to decode a string, so that the words are cut from lists of characters.
  repeat rw [wordList_ofList]
  refine List.forall_mem_cons.2 ⟨?_, List.forall_mem_cons.2 ⟨?_, List.forall_mem_singleton.2 ?_⟩⟩
  all_goals exact DayWords.wellSpaced_ofList (by decide +kernel)

/-! ### Texts that no format fits -/

/-- The day that is some days from the present. -/
def dayAt? (now : DateTime) (days : Option Nat) : Option DateTime :=
  (days.bind (laterDay? now.date)).map fun date => ⟨date, Time.midnight⟩

variable {reader : DateReader} {now : DateTime} {raw : Text}

theorem dayAt?_inj {days other : Option Nat} (hdays : ∀ n ∈ days, (laterDay? now.date n).isSome)
    (hother : ∀ n ∈ other, (laterDay? now.date n).isSome) :
    dayAt? now days = dayAt? now other ↔ days = other := by
  have hsome {n : Nat} (h : (laterDay? now.date n).isSome) : ∃ date : Date,
      dayAt? now (some n) = some ⟨date, Time.midnight⟩ ∧ date.number = now.date.number + n := by
    obtain ⟨date, hdate⟩ := Option.isSome_iff_exists.1 h
    exact ⟨date, by rw [dayAt?, Option.bind_some, hdate, Option.map_some],
      number_of_laterDay? hdate⟩
  refine ⟨fun h => ?_, fun h => h ▸ rfl⟩
  cases days with
  | none =>
    cases other with
    | none => rfl
    | some n =>
      obtain ⟨date, hdate, -⟩ := hsome (hother n rfl)
      rw [hdate] at h
      cases h
  | some n =>
    obtain ⟨date, hdate, hnumber⟩ := hsome (hdays n rfl)
    rw [hdate] at h
    cases other with
    | none => cases h
    | some m =>
      obtain ⟨date', hdate', hnumber'⟩ := hsome (hother m rfl)
      rw [hdate'] at h
      cases h
      exact congrArg some (by omega)

/-- A text that no format fits is read as the day it names, if it names one. -/
theorem read_of_noFormat (hnow : (laterDay? now.date 2).isSome)
    (hstrict : reader.readStrict? now raw = none) :
    ∃ date, reader.read now raw = some date ∧ date.value? = dayAt? now (relativeDays? raw) := by
  rw [read, hstrict]
  generalize hdays : relativeDays? raw = days
  cases days with
  | none => exact ⟨_, rfl, rfl⟩
  | some n =>
    obtain ⟨date, hdate⟩ := Option.isSome_iff_exists.1
      (laterDay?_isSome_of_le (relativeDays?_le hdays) hnow)
    refine ⟨.valid ⟨date, Time.midnight⟩, ?_, ?_⟩
    · simp only [hdate, Option.map_some]
    · rw [dayAt?, Option.bind_some, hdate]
      rfl

/-- No format fits the collapsed text either. -/
theorem readStrict?_collapse (hlocale : reader.locale ∈ Locale.all) (now : DateTime) (raw : Text) :
    reader.readStrict? now (collapse raw) = reader.readStrict? now raw := by
  unfold readStrict?
  congr 1
  funext format
  rw [DatePattern.parse?_of_plain_eq format (wellNamed_of_mem_all hlocale) now
    (trimStart_plain_collapse raw)]

/-- **When collapsing the blanks of a text leaves the day that it names.**  A text that no format
fits and the collapsed text are both read, and they are the same day, or no date both, exactly if for
every word list that names the text loosely there is one for a day as far that names it with the very
blanks of its words. -/
theorem read_collapse (hlocale : reader.locale ∈ Locale.all)
    (hnow : (laterDay? now.date 2).isSome) (hstrict : reader.readStrict? now raw = none) :
    ∃ date collapsed, reader.read now raw = some date ∧
      reader.read now (collapse raw) = some collapsed ∧
      (date.value? = collapsed.value? ↔
        ∀ entry ∈ dayLists, entry.2.NamesLoosely raw →
          ∃ other ∈ dayLists, entry.1 ≤ other.1 ∧ other.2.Names raw) := by
  have hstrict' := (readStrict?_collapse hlocale now raw).trans hstrict
  obtain ⟨date, hread, hdate⟩ := read_of_noFormat hnow hstrict
  obtain ⟨collapsed, hread', hcollapsed⟩ := read_of_noFormat hnow hstrict'
  have hwithin (t : Text) : ∀ n ∈ relativeDays? t, (laterDay? now.date n).isSome :=
    fun n hn => laterDay?_isSome_of_le (relativeDays?_le hn) hnow
  have hmatches {entry : Nat × DayWords} (hentry : entry ∈ dayLists) :
      entry.2.matchesText raw ↔ entry.2.Names raw :=
    DayWords.matchesText_iff (wellSpaced_of_mem_dayLists entry hentry).1
  have hloosely {entry : Nat × DayWords} (hentry : entry ∈ dayLists) :
      entry.2.matchesText (collapse raw) ↔ entry.2.NamesLoosely raw :=
    DayWords.matchesText_collapse_iff (wellSpaced_of_mem_dayLists entry hentry)
  have hsorted : dayLists.Pairwise fun entry other => other.1 < entry.1 := by
    simp [dayLists]
  have hmore : ∀ entry ∈ dayLists, entry.2.matchesText raw → entry.2.matchesText (collapse raw) :=
    fun entry hentry h => (hloosely hentry).2
      (((hmatches hentry).1 h).namesLoosely (wellSpaced_of_mem_dayLists entry hentry))
  refine ⟨date, collapsed, hread, hread', ?_⟩
  rw [hdate, hcollapsed, dayAt?_inj (hwithin raw) (hwithin (collapse raw)), relativeDays?_eq,
    relativeDays?_eq, furthest?_eq_iff hsorted hmore]
  refine forall₂_congr fun entry hentry => ?_
  rw [hloosely hentry]
  refine imp_congr_right fun _ => exists_congr fun other => and_congr_right fun hother => ?_
  rw [hmatches hother]

theorem relativeDays?_dayAfterTomorrow : relativeDays? "day after tomorrow" = some 2 := by
  have hmatches : wordsForDayAfter.matchesText "day after tomorrow" := by
    unfold wordsForDayAfter
    rw [wordList_ofList]
    exact DayWords.matchesText_of_mem rfl (by decide +kernel)
  rw [relativeDays?, if_pos hmatches]

theorem relativeDays?_brokenPhrase : relativeDays? "day after\ntomorrow" = some 1 := by
  have hbroken : wordsForDayAfter.matchesText "day after\ntomorrow" = false := by
    unfold wordsForDayAfter
    rw [wordList_ofList]
    decide +kernel
  have hstands : DayWords.StandsIn (DayWords.Spells (lower "tomorrow")) "day after\ntomorrow" := by
    have hbreak : isWordChar '\n' = false := DayWords.not_isWordChar_of_isBlank '\n' rfl
    have hlower : lower "tomorrow" = "tomorrow".toList := lowerAfter_of_small (by simp) []
    refine ⟨"day after\n".toList, "tomorrow".toList, [], rfl, congrArg _ hlower.symm, ?_, by decide⟩
    change DayWords.isBoundary (some '\n') (some 't')
    rw [DayWords.isBoundary, Option.any_some, hbreak]
    decide
  have hmatches : wordsForTomorrow.matchesText "day after\ntomorrow" := by
    unfold wordsForTomorrow
    rw [wordList_ofList]
    exact DayWords.matchesText_of_standsIn (by decide +kernel) hstands
  rw [relativeDays?, hbroken, if_neg Bool.false_ne_true, if_pos hmatches]

/-- A text that starts with a letter does not fit a format that starts with the day. -/
theorem dayMonths_readStrict?_cons {c : Char} {t : Text} (hblank : isBlank c = false)
    (hdigit : isAsciiDigit c = false) : dayMonths.readStrict? now (c :: t) = none := by
  have hnumber : DatePattern.number? 2 (c :: t) = none := by
    rw [DatePattern.number?, List.take_succ_cons, List.takeWhile_cons_of_neg (by simp [hdigit])]
    rfl
  have hparse : (DatePattern.ofText "DD.MM.").parse? Locale.english now (c :: t) = none := by
    rw [DatePattern.parse?, parts_dayMonth, DatePattern.readParts?, trimStart,
      List.dropWhile_cons_of_neg (by simp [hblank]), DatePattern.readToken?, hnumber]
    rfl
  rw [readStrict?, dayMonths, List.findSome?_singleton, hparse]
  rfl

theorem readStrict?_brokenPhrase :
    dayMonths.readStrict? leapDayStart "day after\ntomorrow" = none :=
  dayMonths_readStrict?_cons (by decide) (by decide)

/-- The phrase names the day after tomorrow loosely, and no list names it for a day as far. -/
theorem read_collapse_brokenPhrase :
    dayMonths.locale ∈ Locale.all ∧ (laterDay? leapDayStart.date 2).isSome ∧
      dayMonths.readStrict? leapDayStart "day after\ntomorrow" = none ∧
      ∃ date collapsed, dayMonths.read leapDayStart "day after\ntomorrow" = some date ∧
        dayMonths.read leapDayStart (collapse "day after\ntomorrow") = some collapsed ∧
        (date.value? = collapsed.value? ↔
          ∀ entry ∈ dayLists, entry.2.NamesLoosely "day after\ntomorrow" →
            ∃ other ∈ dayLists, entry.1 ≤ other.1 ∧ other.2.Names "day after\ntomorrow") := by
  have hlocale : dayMonths.locale ∈ Locale.all := by simp [dayMonths, Locale.all]
  have hnow : (laterDay? leapDayStart.date 2).isSome := by decide
  exact ⟨hlocale, hnow, readStrict?_brokenPhrase, read_collapse hlocale hnow readStrict?_brokenPhrase⟩

/-- Broken by a line, the phrase for the day after tomorrow is read as tomorrow. -/
theorem read_brokenPhrase :
    dayMonths.readStrict? leapDayStart "day after\ntomorrow" = none ∧
      dayMonths.read leapDayStart "day after\ntomorrow" =
        some (.valid ⟨⟨2028, 3, 1, by decide, by decide, by decide⟩, Time.midnight⟩) ∧
      dayMonths.read leapDayStart (collapse "day after\ntomorrow") =
        some (.valid ⟨⟨2028, 3, 2, by decide, by decide, by decide⟩, Time.midnight⟩) := by
  have hcollapse : collapse "day after\ntomorrow" = "day after tomorrow".toList := rfl
  have hlocale : dayMonths.locale ∈ Locale.all := by simp [dayMonths, Locale.all]
  refine ⟨readStrict?_brokenPhrase, ?_, ?_⟩
  · rw [read, readStrict?_brokenPhrase, relativeDays?_brokenPhrase]
    rfl
  · rw [read, readStrict?_collapse hlocale, readStrict?_brokenPhrase, hcollapse,
      relativeDays?_dayAfterTomorrow]
    rfl

end DateReader

end Playbill
