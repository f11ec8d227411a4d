import Playbill.Proofs.DatePattern.RoundTrip
import Playbill.Proofs.RelativeDay.NearestYear

/-!
# Days and months without a year

A day that is printed as a number with its month is read in the present year before another year is
considered.  That is the printed day again unless it is 29 February.

* `DatePattern.IsDayMonth`: the formats with one token for the day and one for the month.
* `DatePattern.parse?_render_dayMonth`: such a format reads what it writes as a day of the present
  year.
* `DateReader.laterDay?_year`: no relative word names a day of another year but in January.
* `DateReader.yearVariants_leapDay`: in the years around it 29 February becomes 28 February.
* `DateReader.leapDayLimit`, `DateReader.nearestYear_leapDay_iff`: until when 29 February is the
  nearest of the three.
* `DateReader.read_dayMonth`: which days come back.
-/

namespace Playbill

namespace DatePattern

/-- Some parts are a token for the day, one for the month, and literals.  Unless it ends the format,
a number of one digit or two is followed by a literal that starts with no digit. -/
structure IsDayMonth (parts : List FormatPart) : Prop where
  tokens_eq : ∃ ofDay ofMonth : DateToken, (ofDay = .day ∨ ofDay = .day2) ∧
    (ofMonth = .month ∨ ofMonth = .month2) ∧
    (tokens parts = [ofDay, ofMonth] ∨ tokens parts = [ofMonth, ofDay])
  separated : ∀ token after, .token token :: after <:+ parts → token.isOpen →
    after = [] ∨ ∃ c text rest, after = .literal (c :: text) :: rest ∧ isAsciiDigit c = false

section

variable {parts : List FormatPart} (h : IsDayMonth parts)

include h

theorem IsDayMonth.unit?_of_mem {token : DateToken} (htoken : token ∈ tokens parts) :
    token.unit? = some .day ∨ token.unit? = some .month := by
  obtain ⟨ofDay, ofMonth, hday, hmonth, hparts⟩ := h.tokens_eq
  have hmem : token = ofDay ∨ token = ofMonth := by
    rcases hparts with hparts | hparts
    · simpa [hparts] using htoken
    · simpa [hparts, or_comm] using htoken
  rcases hmem with rfl | rfl
  · exact .inl (by rcases hday with rfl | rfl <;> rfl)
  · exact .inr (by rcases hmonth with rfl | rfl <;> rfl)

theorem IsDayMonth.year4_not_mem : .year4 ∉ tokens parts := fun hmem => by
  rcases h.unit?_of_mem hmem with hunit | hunit <;> cases hunit

/-- The two tokens record the month and the day and nothing else. -/
theorem IsDayMonth.foldl_record (v : DateTime) :
    (tokens parts).foldl (record v) {} =
      { month := some v.date.month, day := some v.date.day } := by
  obtain ⟨ofDay, ofMonth, rfl | rfl, rfl | rfl, hparts | hparts⟩ := h.tokens_eq <;>
    rw [hparts] <;> rfl

theorem IsDayMonth.no_digit (locale : Locale) (v : DateTime) :
    ∀ token after, .token token :: after <:+ parts → token.isOpen →
      ¬ (partsText locale v after).head?.any isAsciiDigit := by
  intro token after hsuffix hopen
  rcases h.separated token after hsuffix hopen with rfl | ⟨c, text, rest, rfl, hc⟩
  · exact Bool.false_ne_true
  · simp [partsText, partText, hc]

end

theorem IsDayMonth.namesYear {format : DatePattern} (h : IsDayMonth format.parts) :
    format.namesYear = false := by
  rw [DatePattern.namesYear, List.any_eq_false]
  intro part hpart hyear
  rw [Bool.or_eq_true, beq_iff_eq, beq_iff_eq] at hyear
  rcases hyear with rfl | rfl <;>
    rcases h.unit?_of_mem (mem_tokens_iff.2 hpart) with hunit | hunit <;> cases hunit

/-- A format with a day and a month reads what it writes as a day of the present year, if this has
such a day. -/
theorem parse?_render_dayMonth {format : DatePattern} (h : IsDayMonth format.parts)
    (locale : Locale) (now v : DateTime) :
    format.parse? locale now (format.render locale v) =
      (Date.of? now.date.year v.date.month v.date.day).map fun date => ⟨date, Time.midnight⟩ := by
  have hdigits (token : DateToken) (htoken : token ∈ tokens format.parts) : token.unit?.isSome := by
    rcases h.unit?_of_mem htoken with hunit | hunit <;> rw [hunit] <;> rfl
  obtain ⟨rest, hread, hblank⟩ := readParts?_render hdigits
    (fun hmem => absurd hmem h.year4_not_mem) (h.no_digit locale v) {}
    (t := format.render locale v) rfl
  rw [parse?, hread, h.foldl_record]
  simp only [hblank, List.isEmpty_nil, if_true, DateFields.resolve?, Option.getD_none,
    Option.getD_some]
  exact (Option.map_eq_bind ..).symm

end DatePattern

namespace DateReader

/-! ### Relative days -/

/-- Some days from a date on, few enough to stay in January, no other year is reached but at its
start. -/
theorem laterDay?_year {date later : Date} {days : Nat} (hdays : days ≤ 31)
    (h : laterDay? date days = some later) :
    later.year = date.year ∨ (later.month = 1 ∧ later.day ≤ days) := by
  induction days generalizing later with
  | zero =>
    cases h
    exact .inl rfl
  | succ days ih =>
    obtain ⟨last, hlast, hnext⟩ := Option.bind_eq_some_iff.1 h
    have hbefore := ih (by omega) hlast
    unfold Date.next? at hnext
    split_ifs at hnext with hday hmonth
    · obtain ⟨hyear, hsame, hsucc⟩ := Date.of?_eq_some_iff.1 hnext
      rw [hyear, hsame, hsucc]
      omega
    · obtain ⟨hyear, hsame, hsucc⟩ := Date.of?_eq_some_iff.1 hnext
      have hlength : monthLength last.year 1 = 31 := rfl
      rcases hbefore with hbefore | ⟨hjanuary, hearly⟩
      · exact .inl (hyear.trans hbefore)
      · rw [hjanuary, hlength] at hday
        omega
    · obtain ⟨hyear, hsame, hsucc⟩ := Date.of?_eq_some_iff.1 hnext
      exact .inr ⟨hsame, by omega⟩

theorem relativeDays?_le {raw : Text} {days : Nat} (h : relativeDays? raw = some days) :
    days ≤ 2 := by
  unfold relativeDays? at h
  split_ifs at h <;> cases h <;> decide

/-! ### 29 February -/

/-- The seconds to a day of February. -/
theorem secondsOn_february (year : Int) (day : Nat) (time : Time) :
    DateTime.secondsOn year 2 day time =
      DateTime.startOfYear year + (31 + (day - 1)) * 86400 + time.seconds := by
  have hjanuary : Date.daysBeforeMonth year 2 = 31 := rfl
  unfold DateTime.secondsOn DateTime.startOfYear
  rw [hjanuary]
  omega

/-- The last nanosecond of a leap year at which four months later is not nearer to the next 28 February
than to this 29 February. -/
def leapDayLimit (year : Int) : Int :=
  DateTime.secondsOn year 4 29 Time.noon * 1000000000

theorem leapDayLimit_eq (year : Int) :
    leapDayLimit year = (DateTime.startOfYear year + (Date.daysBeforeMonth year 4 + 28) * 86400 +
      43200) * 1000000000 := by
  have hnoon : Time.noon.seconds = 43200 := rfl
  unfold leapDayLimit DateTime.secondsOn DateTime.startOfYear
  rw [hnoon]
  omega

/-- The days from April to May, August and September. -/
theorem daysBeforeMonth_from_april (year : Int) :
    Date.daysBeforeMonth year 5 = Date.daysBeforeMonth year 4 + 30 ∧
      Date.daysBeforeMonth year 8 = Date.daysBeforeMonth year 4 + 122 ∧
      Date.daysBeforeMonth year 9 = Date.daysBeforeMonth year 4 + 153 := by
  have hmay : Date.daysBeforeMonth year 5 + 90 = Date.daysBeforeMonth year 4 + 120 :=
    DateTime.daysBeforeMonth_add year 4 5 (by decide) (by decide)
  have haugust : Date.daysBeforeMonth year 8 + 90 = Date.daysBeforeMonth year 4 + 212 :=
    DateTime.daysBeforeMonth_add year 4 8 (by decide) (by decide)
  have hseptember : Date.daysBeforeMonth year 9 + 90 = Date.daysBeforeMonth year 4 + 243 :=
    DateTime.daysBeforeMonth_add year 4 9 (by decide) (by decide)
  omega

/-- From a day of April to that of August there are 122 days. -/
theorem expected_of_april {now : DateTime} (hlast : now.date.year < lastYear)
    (hapril : now.date.month = 4) : (expected now).seconds = now.seconds + 122 * 86400 := by
  obtain ⟨htotal, hclamped, htime⟩ := monthsAfter_expected hlast
  unfold lookahead at htotal
  have hmonth := (expected now).date.month_mem
  have hyear : (expected now).date.year = now.date.year := by omega
  have haugust : (expected now).date.month = 8 := by omega
  have hlong : monthLength now.date.year 8 = 31 := rfl
  rw [hyear, haugust, hlong, min_eq_left now.date.day_le] at hclamped
  have hdays := (daysBeforeMonth_from_april now.date.year).2.1
  rw [DateTime.seconds_eq_secondsOn, DateTime.seconds_eq_secondsOn now, hyear, haugust, hclamped,
    htime, hapril]
  unfold DateTime.secondsOn
  omega

/-- Four months keep the order around noon of 29 April. -/
theorem expected_le_iff {now : DateTime} (hlast : now.date.year < lastYear) :
    (expected now).nanoseconds ≤ leapDayLimit now.date.year + 122 * 86400 * 1000000000 ↔
      now.nanoseconds ≤ leapDayLimit now.date.year := by
  obtain ⟨htotal, -, htime⟩ := monthsAfter_expected hlast
  unfold lookahead at htotal
  have hnanosecond := now.time.nanosecond_lt
  have hmonth := now.date.month_mem
  have hmonth' := (expected now).date.month_mem
  obtain ⟨hmay, haugust, hseptember⟩ := daysBeforeMonth_from_april now.date.year
  rw [leapDayLimit_eq, DateTime.nanoseconds, DateTime.nanoseconds, htime]
  rcases lt_trichotomy now.date.month 4 with hbefore | hapril | hafter
  · have hyear : (expected now).date.year = now.date.year := by omega
    have hnow := now.seconds_lt_of_lt 4 hbefore
    have hthen := (expected now).seconds_lt_of_lt 8 (by omega)
    rw [hyear] at hthen
    omega
  · rw [expected_of_april hlast hapril]
    omega
  · have hnow := now.le_seconds_of_le 5 (by decide) hafter
    have hthen : DateTime.startOfYear now.date.year +
        Date.daysBeforeMonth now.date.year 9 * 86400 ≤ (expected now).seconds := by
      by_cases hyear : (expected now).date.year = now.date.year
      · have hle := (expected now).le_seconds_of_le 9 (by decide) (by omega)
        rwa [hyear] at hle
      · have hle := (expected now).startOfYear_le_seconds
        have hyears : Date.daysBeforeMonth now.date.year 9 ≤
            Date.daysBeforeMonth now.date.year 13 :=
          DateTime.daysBeforeMonth_mono now.date.year (by decide) (by decide)
        rw [show (expected now).date.year = now.date.year + 1 by omega,
          DateTime.startOfYear_succ_eq] at hle
        omega
    omega

section

variable {value now : DateTime} (hmonth : value.date.month = 2) (hday : value.date.day = 29)

include hmonth hday

theorem isLeapYear_of_leapDay : isLeapYear value.date.year := by
  have hle := value.date.day_mem.2
  rw [hmonth, hday, le_monthLength_two_iff] at hle
  simpa using hle

theorem seconds_of_leapDay :
    value.seconds =
      DateTime.startOfYear value.date.year + 59 * 86400 + value.time.seconds := by
  rw [value.seconds_eq_secondsOn, hmonth, hday, secondsOn_february]
  omega

/-- The limit lies sixty days and a half after the start of the leap day. -/
theorem leapDayLimit_of_leapDay (htime : value.time = Time.midnight) :
    leapDayLimit value.date.year = (value.seconds + 60 * 86400 + 43200) * 1000000000 := by
  have hapril : Date.daysBeforeMonth value.date.year 4 = 91 := by
    rw [DateTime.daysBeforeMonth_eq _ (by decide),
      if_pos ⟨by decide, isLeapYear_of_leapDay hmonth hday⟩]
    rfl
  have hmidnight : Time.midnight.seconds = 0 := rfl
  rw [leapDayLimit_eq, hapril, seconds_of_leapDay hmonth hday, htime, hmidnight]
  omega

/-- In the years around it 29 February becomes 28 February. -/
theorem shiftMonths?_leapDay {years : Int} (hyears : years = -1 ∨ years = 1)
    (hmem : firstYear ≤ value.date.year + years ∧ value.date.year + years ≤ lastYear) :
    ∃ v, value.shiftMonths? (12 * years) = some v ∧ v.date.day = 28 ∧ v.time = value.time ∧
      v.seconds = DateTime.startOfYear (value.date.year + years) + 58 * 86400 +
        value.time.seconds := by
  have hleap := isLeapYear_iff.1 (isLeapYear_of_leapDay hmonth hday)
  obtain ⟨v, hv⟩ : ∃ v, value.shiftMonths? (12 * years) = some v :=
    DateTime.exists_shiftMonths? (by omega) (by omega)
  obtain ⟨htotal, hclamped, htime⟩ := DateTime.shiftMonths?_eq_some_iff.1 hv
  have hrange := v.date.month_mem
  have hyear : v.date.year = value.date.year + years := by omega
  have hfebruary : v.date.month = 2 := by omega
  have hcommon : monthLength v.date.year 2 = 28 := by
    have hnot : ¬ isLeapYear v.date.year := by
      rw [isLeapYear_iff]
      omega
    simp [monthLength, hnot]
  rw [hfebruary, hday, hcommon] at hclamped
  refine ⟨v, hv, hclamped, htime, ?_⟩
  rw [DateTime.seconds_eq_secondsOn, hfebruary, hclamped, secondsOn_february, hyear, htime]
  omega

theorem yearVariants_leapDay
    (hyear : firstYear < value.date.year ∧ value.date.year < lastYear) :
    ∃ before after, yearVariants value = [before, value, after] ∧
      (before.date.day = 28 ∧ before.time = value.time ∧
        before.seconds = value.seconds - 366 * 86400) ∧
      after.date.day = 28 ∧ after.time = value.time ∧
        after.seconds = value.seconds + 365 * 86400 := by
  have hleap := isLeapYear_of_leapDay hmonth hday
  have hcommon : ¬ isLeapYear (value.date.year - 1) := by
    rw [isLeapYear_iff] at hleap ⊢
    omega
  obtain ⟨before, hbefore, hday₁, htime₁, hseconds₁⟩ := shiftMonths?_leapDay hmonth hday (.inl rfl)
    ⟨by omega, by omega⟩
  obtain ⟨after, hafter, hday₂, htime₂, hseconds₂⟩ := shiftMonths?_leapDay hmonth hday (.inr rfl)
    ⟨by omega, by omega⟩
  have hthis := seconds_of_leapDay hmonth hday
  have hlast := DateTime.startOfYear_succ (value.date.year - 1)
  have hnext := DateTime.startOfYear_succ value.date.year
  rw [if_neg hcommon, Int.sub_add_cancel] at hlast
  rw [if_pos hleap] at hnext
  refine ⟨before, after, ?_, ⟨hday₁, htime₁, ?_⟩, hday₂, htime₂, ?_⟩
  · rw [Int.mul_neg_one] at hbefore
    rw [Int.mul_one] at hafter
    rw [yearVariants, hbefore, hafter]
    rfl
  · rw [hseconds₁, hthis, hlast, Int.add_neg_eq_sub]
    omega
  · rw [hseconds₂, hthis, hnext]
    omega

/-- Read at midnight, 29 February stays what it is until the limit, and is 28 February after it. -/
theorem nearestYear_leapDay_iff (htime : value.time = Time.midnight)
    (hnow : value.date.year = now.date.year)
    (hyear : firstYear < now.date.year ∧ now.date.year < lastYear) :
    ((nearestYear value now).date.month = 2 ∧ (nearestYear value now).date.day = 29) ↔
      now.nanoseconds ≤ leapDayLimit now.date.year := by
  obtain ⟨before, after, hvariants, ⟨hday₁, htime₁, hseconds₁⟩, hday₂, htime₂, hseconds₂⟩ :=
    yearVariants_leapDay hmonth hday (by rwa [hnow])
  have hmidnight : Time.midnight.seconds = 0 := rfl
  have hlimit := leapDayLimit_of_leapDay hmonth hday htime
  have hvalue := seconds_of_leapDay hmonth hday
  have hbounds := (expected_bounds hyear.2).1
  rw [hnow] at hlimit hvalue
  rw [htime, hmidnight] at hvalue
  have hsince := DateTime.since_of_midnight htime (expected now)
  have hsince₁ := DateTime.since_of_midnight (htime₁.trans htime) (expected now)
  have hsince₂ := DateTime.since_of_midnight (htime₂.trans htime) (expected now)
  have hreference : (expected now).seconds * 1000000000 ≤ (expected now).nanoseconds :=
    Int.le_add_of_nonneg_right (Int.natCast_nonneg _)
  rw [← expected_le_iff hyear.2, hlimit, nearestYear, hvariants]
  -- The variant of the year before is out of the question, as the reference lies in May or later.
  have hnot : ¬ (before.secondsSince (expected now)).natAbs ≤
      (value.secondsSince (expected now)).natAbs :=
    mt (DateTime.secondsSince_le_iff htime₁ _).1 (by omega)
  have hnext := DateTime.secondsSince_le_iff htime₂.symm (expected now)
  by_cases hle : (value.since (expected now)).natAbs ≤ (after.since (expected now)).natAbs
  · simp only [nearest?, hnext.2 hle, if_true, hnot, if_false, Option.getD_some, hmonth, hday,
      and_self, true_iff]
    omega
  · have hnot' : ¬ (before.secondsSince (expected now)).natAbs ≤
        (after.secondsSince (expected now)).natAbs :=
      mt (DateTime.secondsSince_le_iff (htime₁.trans htime₂.symm) _).1 (by omega)
    simp only [nearest?, mt hnext.1 hle, hnot', if_false, Option.getD_some, hday₂]
    omega

end

/-! ### Days and months -/

/-- A text is read as some day of a month, in whatever year. -/
def ReadsDay (reader : DateReader) (now : DateTime) (raw : Text) (month day : Nat) : Prop :=
  ∃ v, reader.read now raw = some (.valid v) ∧ v.date.month = month ∧ v.date.day = day

section

variable {reader : DateReader} {format : DatePattern} {now v : DateTime}
  (hformats : reader.formats = [format]) (hformat : DatePattern.IsDayMonth format.parts)

include hformats hformat

/-- In a year without 29 February not even a relative word reads one. -/
theorem not_readsDay_of_common (hcommon : ¬ isLeapYear now.date.year)
    (hmonth : v.date.month = 2) (hday : v.date.day = 29) :
    ¬ reader.ReadsDay now (format.render reader.locale v) 2 29 := by
  have hnone : Date.of? now.date.year 2 29 = none := by
    rw [Option.eq_none_iff_forall_ne_some]
    intro date hdate
    obtain ⟨hyear, hfebruary, hleapDay⟩ := Date.of?_eq_some_iff.1 hdate
    have hle := date.day_mem.2
    rw [hyear, hfebruary, hleapDay, le_monthLength_two_iff] at hle
    exact hcommon (by simpa using hle)
  have hstrict : reader.readStrict? now (format.render reader.locale v) = none := by
    rw [readStrict?, hformats, List.findSome?_cons, DatePattern.parse?_render_dayMonth hformat,
      hmonth, hday, hnone]
    rfl
  rintro ⟨w, hread, hmonth', hday'⟩
  rw [read, hstrict] at hread
  generalize hdays : relativeDays? _ = found at hread
  cases found with
  | none => cases hread
  | some days =>
    obtain ⟨date, hdate, hw⟩ := Option.map_eq_some_iff.1 hread
    cases hw
    have hle := date.day_mem.2
    rw [hmonth', hday', le_monthLength_two_iff] at hle
    rcases laterDay?_year ((relativeDays?_le hdays).trans (by decide)) hdate with hyear | ⟨hone, -⟩
    · rw [hyear] at hle
      exact hcommon (by simpa using hle)
    · rw [hmonth'] at hone
      exact absurd hone (by decide)

/-- In a year that has the day, the text is read as the nearest variant of it. -/
theorem read_dayMonth_of_exists (hpreserve : reader.preserveYear = false) {date : Date}
    (hdate : Date.of? now.date.year v.date.month v.date.day = some date) :
    reader.read now (format.render reader.locale v) =
      some (.valid (nearestYear ⟨date, Time.midnight⟩ now)) := by
  have hfit : reader.FirstFit now (format.render reader.locale v) format
      ⟨date, Time.midnight⟩ := by
    refine ⟨[], [], hformats, List.forall_mem_nil _, ?_⟩
    rw [DatePattern.parse?_render_dayMonth hformat, hdate]
    rfl
  rw [read, readStrict?_eq_some_iff.2 hfit]
  simp only [hformat.namesYear, hpreserve, Bool.not_false, Bool.and_self, if_true]

/-- **A day printed with its month is read as that day of that month, 29 February only if the
present year has one and it is not yet past noon of 29 April**, when the next 28 February comes
nearer to four months from now. -/
theorem read_dayMonth (hpreserve : reader.preserveYear = false)
    (hnow : firstYear + 2 ≤ now.date.year ∧ now.date.year ≤ lastYear - 2) :
    reader.ReadsDay now (format.render reader.locale v) v.date.month v.date.day ↔
      (v.date.month = 2 ∧ v.date.day = 29 →
        isLeapYear now.date.year ∧ now.nanoseconds ≤ leapDayLimit now.date.year) := by
  have hread (date : Date) (hdate : Date.of? now.date.year v.date.month v.date.day = some date) :
      reader.ReadsDay now (format.render reader.locale v) v.date.month v.date.day ↔
        (nearestYear ⟨date, Time.midnight⟩ now).date.month = v.date.month ∧
          (nearestYear ⟨date, Time.midnight⟩ now).date.day = v.date.day := by
    unfold ReadsDay
    rw [read_dayMonth_of_exists hformats hformat hpreserve hdate]
    simp only [Option.some.injEq, EventDate.valid.injEq, exists_eq_left']
  by_cases hleapDay : v.date.month = 2 ∧ v.date.day = 29
  · obtain ⟨hmonth, hday⟩ := hleapDay
    simp only [hmonth, hday, and_self, forall_const] at hread ⊢
    by_cases hleap : isLeapYear now.date.year
    · obtain ⟨date, hdate⟩ : ∃ date, Date.of? now.date.year 2 29 = some date :=
        Date.exists_of? now.date.year_mem (by decide)
          ⟨by decide, le_monthLength_two_iff.2 (.inr ⟨rfl, hleap⟩)⟩
      obtain ⟨hdateYear, hdateMonth, hdateDay⟩ := Date.of?_eq_some_iff.1 hdate
      rw [hread date hdate, nearestYear_leapDay_iff hdateMonth hdateDay rfl hdateYear
        ⟨by omega, by omega⟩]
      simp only [hleap, true_and]
    · simp only [hleap, Bool.false_eq_true, false_and, iff_false]
      exact not_readsDay_of_common hformats hformat hleap hmonth hday
  · obtain ⟨date, hdate⟩ := Date.exists_of? now.date.year_mem v.date.month_mem
      ⟨v.date.day_mem.1, le_monthLength_of_not_leapDay v.date.day_mem.2 hleapDay now.date.year⟩
    obtain ⟨hdateYear, hdateMonth, hdateDay⟩ := Date.of?_eq_some_iff.1 hdate
    have hnearest : NearestOccurrence (expected now) ⟨date, Time.midnight⟩
        (nearestYear ⟨date, Time.midnight⟩ now) :=
      nearestOccurrence_nearestYear (by simpa only [hdateMonth, hdateDay] using hleapDay) hdateYear
        (by omega) (by omega)
    rw [hread date hdate]
    exact iff_of_true ⟨hnearest.month_eq.trans hdateMonth, hnearest.day_eq.trans hdateDay⟩
      fun h => absurd h hleapDay

end

/-- A reader of days and months. -/
def dayMonths : DateReader :=
  ⟨[DatePattern.ofText "DD.MM."], Locale.english, false⟩

/-- The start of 29 February 2028. -/
def leapDayStart : DateTime :=
  ⟨{ DatePattern.leapNight.date with year := 2028, year_mem := by decide, day_mem := by decide },
    Time.midnight⟩

theorem isDayMonth_dayMonths : DatePattern.IsDayMonth (DatePattern.ofText "DD.MM.").parts := by
  rw [parts_dayMonth]
  refine ⟨⟨.day2, .month2, .inr rfl, .inr rfl, .inl rfl⟩, fun token after hsuffix hopen => ?_⟩
  have htoken : token = .day2 ∨ token = .month2 := by
    simpa using hsuffix.subset List.mem_cons_self
  rcases htoken with rfl | rfl <;> cases hopen

theorem render_leapDayStart :
    (DatePattern.ofText "DD.MM.").render dayMonths.locale leapDayStart = "29.02." := by
  rw [DatePattern.render, parts_dayMonth]
  decide

/-- At the limit itself the leap day is still read. -/
theorem read_dayMonth_aprilNoon :
    DatePattern.IsDayMonth (DatePattern.ofText "DD.MM.").parts ∧
      dayMonths.ReadsDay ⟨⟨2028, 4, 29, by decide, by decide, by decide⟩, Time.noon⟩ "29.02."
        2 29 := by
  refine ⟨isDayMonth_dayMonths, ?_⟩
  rw [← render_leapDayStart]
  exact (read_dayMonth rfl isDayMonth_dayMonths rfl ⟨by decide, by decide⟩).2 fun _ =>
    ⟨by decide, by decide⟩

/-- In November 2027 the coming leap day is not read. -/
theorem not_readsDay_comingLeapDay :
    DatePattern.IsDayMonth (DatePattern.ofText "DD.MM.").parts ∧ (Date.of? 2028 2 29).isSome ∧
      (DatePattern.ofText "DD.MM.").render dayMonths.locale leapDayStart = "29.02." ∧
      ¬ dayMonths.ReadsDay ⟨⟨2027, 11, 15, by decide, by decide, by decide⟩, Time.noon⟩ "29.02."
        2 29 := by
  refine ⟨isDayMonth_dayMonths, by decide, render_leapDayStart, ?_⟩
  rw [← render_leapDayStart]
  exact not_readsDay_of_common rfl isDayMonth_dayMonths (by decide) rfl rfl

end DateReader

end Playbill
