import Playbill.Proofs.Calendar.Days
import Playbill.RelativeDay.Reader

/-!
# The year of a date without one

A day that is printed without its year is taken in the year that brings it nearest to four months
from now.

* `DatePattern.parse?_year`: read without a year, a date has the present one.
* `DateReader.mem_yearVariants_iff`: the variants are the same day in three years.
* `DateReader.natAbs_nearestYear_le`: no other year comes nearer, the three being enough.
* `DateReader.read_nearestYear`: the same for whole texts.
-/

namespace Playbill

/-! ### Dates read without a year -/

theorem DateFields.year_of_resolve? {fields : DateFields} {now v : DateTime}
    (hyear : fields.year = none) (h : fields.resolve? now = some v) :
    v.date.year = now.date.year := by
  unfold resolve? at h
  simp only [hyear, Option.getD_none, Option.bind_eq_bind, Option.bind_eq_some_iff] at h
  obtain ⟨date, hdate, time, -, hv⟩ := h
  cases hv
  exact (Date.of?_eq_some_iff.1 hdate).1

namespace DatePattern

/-- Only the tokens of years change the year. -/
theorem readToken?_year {locale : Locale} {token : DateToken} {next : Option Char}
    {fields fields' : DateFields} {t rest : Text} (h4 : token ≠ .year4) (h2 : token ≠ .year2)
    (h : readToken? locale token next fields t = some (fields', rest)) :
    fields'.year = fields.year := by
  cases token
  case year4 => exact absurd rfl h4
  case year2 => exact absurd rfl h2
  case weekdayName | weekdayShort | weekdayMin =>
    simp only [readToken?] at h
    split_ifs at h
    cases h
    rfl
  all_goals
    obtain ⟨read, -, hread⟩ := Option.map_eq_some_iff.1 h
    cases hread
    rfl

theorem readParts?_year {locale : Locale} {parts : List FormatPart} {fields fields' : DateFields}
    {t rest : Text}
    (hyear : (parts.any fun part => part == .token .year4 || part == .token .year2) = false)
    (h : readParts? locale parts fields t = some (fields', rest)) :
    fields'.year = fields.year := by
  induction parts generalizing fields t with
  | nil =>
    cases h
    rfl
  | cons part parts ih =>
    rw [List.any_cons, Bool.or_eq_false_iff] at hyear
    cases part with
    | literal literal =>
      obtain ⟨t', -, hrest⟩ := Option.bind_eq_some_iff.1 h
      exact ih hyear.2 hrest
    | token token =>
      obtain ⟨⟨fields₁, t'⟩, htoken, hrest⟩ := Option.bind_eq_some_iff.1 h
      have hnot := hyear.1
      simp only [Bool.or_eq_false_iff, beq_eq_false_iff_ne, ne_eq, FormatPart.token.injEq] at hnot
      exact (ih hyear.2 hrest).trans (readToken?_year hnot.1 hnot.2 htoken)

/-- Read without a year, a date is of the present one. -/
theorem parse?_year {format : DatePattern} {locale : Locale} {now v : DateTime} {raw : Text}
    (hyear : format.namesYear = false) (h : format.parse? locale now raw = some v) :
    v.date.year = now.date.year := by
  unfold parse? at h
  split at h
  · rename_i fields rest hread
    split_ifs at h
    exact DateFields.year_of_resolve? (readParts?_year hyear hread) h
  · cases h

end DatePattern

namespace DateReader

/-! ### The nearest of a list -/

theorem mem_of_nearest? {reference best : DateTime} {values : List DateTime}
    (h : nearest? reference values = some best) : best ∈ values := by
  induction values generalizing best with
  | nil => cases h
  | cons value values ih =>
    rw [nearest?] at h
    cases hrest : nearest? reference values with
    | none =>
      rw [hrest] at h
      cases h
      exact List.mem_cons_self
    | some other =>
      rw [hrest] at h
      simp only at h
      split_ifs at h <;> cases h
      · exact List.mem_cons_self
      · exact List.mem_cons_of_mem _ (ih hrest)

theorem nearest?_eq_none_iff {reference : DateTime} {values : List DateTime} :
    nearest? reference values = none ↔ values = [] := by
  cases values with
  | nil => simp [nearest?]
  | cons value values =>
    rw [nearest?]
    split
    · simp
    · split_ifs <;> simp

theorem natAbs_le_of_nearest? {reference best : DateTime} {values : List DateTime}
    (h : nearest? reference values = some best) {value : DateTime} (hvalue : value ∈ values) :
    (best.secondsSince reference).natAbs ≤ (value.secondsSince reference).natAbs := by
  induction values generalizing best with
  | nil => cases hvalue
  | cons first values ih =>
    rw [nearest?] at h
    cases hrest : nearest? reference values with
    | none =>
      rw [nearest?_eq_none_iff] at hrest
      subst hrest
      rw [List.mem_singleton] at hvalue
      cases h
      rw [hvalue]
    | some other =>
      rw [hrest] at h
      simp only at h
      rcases List.mem_cons.1 hvalue with rfl | hvalue
      · split_ifs at h <;> cases h <;> omega
      · have hother := ih hrest hvalue
        split_ifs at h <;> cases h <;> omega

/-- Among points in time at one time of day, the nearest by whole seconds is the nearest to the
nanosecond. -/
theorem natAbs_since_le_of_nearest? {reference best value : DateTime} {values : List DateTime}
    (h : nearest? reference values = some best) (hvalue : value ∈ values)
    (htime : best.time = value.time) :
    (best.since reference).natAbs ≤ (value.since reference).natAbs :=
  (DateTime.secondsSince_le_iff htime reference).1 (natAbs_le_of_nearest? h hvalue)

/-! ### Variants in other years -/

/-- The variants of a day other than 29 February are the same day in the three years. -/
theorem mem_yearVariants_iff {value v : DateTime}
    (hleap : ¬ (value.date.month = 2 ∧ value.date.day = 29)) :
    v ∈ yearVariants value ↔
      (value.date.year - 1 ≤ v.date.year ∧ v.date.year ≤ value.date.year + 1) ∧
        v.date.month = value.date.month ∧ v.date.day = value.date.day ∧ v.time = value.time := by
  have hshift (years : Int) : DateTime.MonthsAfter (12 * years) value v ↔
      v.date.year = value.date.year + years ∧ v.date.month = value.date.month ∧
        v.date.day = value.date.day ∧ v.time = value.time := by
    have hday := le_monthLength_of_not_leapDay value.date.day_mem.2 hleap v.date.year
    have hmonth := v.date.month_mem
    have hmonth' := value.date.month_mem
    constructor
    · rintro ⟨htotal, hclamped, htime⟩
      have heq : v.date.month = value.date.month := by omega
      rw [heq, min_eq_left hday] at hclamped
      exact ⟨by omega, heq, hclamped, htime⟩
    · rintro ⟨hyear, heq, hsame, htime⟩
      refine ⟨by omega, ?_, htime⟩
      rw [heq, hsame, min_eq_left hday]
  have hself : value.shiftMonths? 0 = some value :=
    DateTime.shiftMonths?_eq_some_iff.2
      ⟨by rw [Int.add_zero], (min_eq_left value.date.day_mem.2).symm, rfl⟩
  have hlist : yearVariants value = [value.shiftMonths? (12 * -1), value.shiftMonths? (12 * 0),
      value.shiftMonths? (12 * 1)].filterMap id := by
    rw [yearVariants, Int.mul_zero, hself]
    rfl
  simp only [hlist, List.mem_filterMap, List.mem_cons, List.not_mem_nil, or_false, id,
    exists_eq_or_imp, exists_eq_left, DateTime.shiftMonths?_eq_some_iff, hshift, ← or_and_right]
  exact and_congr_left fun _ => by omega

theorem nearest?_yearVariants (value now : DateTime) :
    nearest? (expected now) (yearVariants value) = some (nearestYear value now) := by
  unfold nearestYear
  cases hnearest : nearest? (expected now) (yearVariants value) with
  | some best => rfl
  | none =>
    rw [nearest?_eq_none_iff] at hnearest
    have hmem : value ∈ yearVariants value := by simp [yearVariants]
    rw [hnearest] at hmem
    cases hmem

theorem monthsAfter_expected {now : DateTime} (h : now.date.year < lastYear) :
    DateTime.MonthsAfter lookahead now (expected now) := by
  have hmonth := now.date.month_mem
  have hyear := now.date.year_mem
  obtain ⟨reference, hreference⟩ : ∃ reference, now.shiftMonths? lookahead = some reference :=
    DateTime.exists_shiftMonths? (by unfold lookahead; omega) (by unfold lookahead; omega)
  rw [expected, hreference]
  exact DateTime.shiftMonths?_eq_some_iff.1 hreference

/-- The reference lies in the present year, but not before May, or in the first four months of the
next one. -/
theorem expected_bounds {now : DateTime} (h : now.date.year < lastYear) :
    DateTime.startOfYear now.date.year + 120 * 86400 ≤ (expected now).seconds ∧
      (expected now).seconds < DateTime.startOfYear (now.date.year + 1) + 121 * 86400 := by
  obtain ⟨htotal, -, -⟩ := monthsAfter_expected h
  have hmonth := now.date.month_mem
  have hmonth' := (expected now).date.month_mem
  have hmay (year : Int) :
      120 ≤ Date.daysBeforeMonth year 5 ∧ Date.daysBeforeMonth year 5 ≤ 121 := by
    rw [DateTime.daysBeforeMonth_eq year (by decide)]
    split_ifs <;> decide
  have hstart := DateTime.startOfYear_succ_eq now.date.year
  have hyears : Date.daysBeforeMonth now.date.year 5 ≤ Date.daysBeforeMonth now.date.year 13 :=
    DateTime.daysBeforeMonth_mono now.date.year (by decide) (by decide)
  have hlow := (hmay now.date.year).1
  unfold lookahead at htotal
  by_cases hyear : (expected now).date.year = now.date.year
  · have hafter := (expected now).le_seconds_of_le 5 (by decide) (by omega)
    have hbefore := (expected now).seconds_lt_startOfYear
    rw [hyear] at hafter hbefore
    exact ⟨by omega, by omega⟩
  · have hnext : (expected now).date.year = now.date.year + 1 := by omega
    have hafter := (expected now).startOfYear_le_seconds
    have hbefore := (expected now).seconds_lt_of_lt 5 (by omega)
    have hhigh := (hmay (now.date.year + 1)).2
    rw [hnext] at hafter hbefore
    exact ⟨by omega, by omega⟩

/-- A point in time has the day and the time of day of another, and of all years its own brings
these nearest to a reference. -/
structure NearestOccurrence (reference value v : DateTime) : Prop where
  month_eq : v.date.month = value.date.month
  day_eq : v.date.day = value.date.day
  time_eq : v.time = value.time
  natAbs_le : ∀ year : Int, (v.since reference).natAbs ≤
    (reference.sinceOn year value.date.month value.date.day value.time).natAbs

section

variable {value now : DateTime} (hleap : ¬ (value.date.month = 2 ∧ value.date.day = 29))
  (hyear : value.date.year = now.date.year)
  (hfirst : firstYear < now.date.year) (hlast : now.date.year < lastYear)

include hleap hyear hfirst hlast

/-- Each of the three years has its variant, which lies in that year. -/
theorem exists_variant (year : Int) (hnear : now.date.year - 1 ≤ year ∧ year ≤ now.date.year + 1) :
    ∃ v ∈ yearVariants value, v.date.year = year ∧
      v.seconds = DateTime.secondsOn year value.date.month value.date.day value.time := by
  obtain ⟨date, hdate⟩ := Date.exists_of? ⟨by omega, by omega⟩ value.date.month_mem
    ⟨value.date.day_mem.1, le_monthLength_of_not_leapDay value.date.day_mem.2 hleap year⟩
  obtain ⟨hdateYear, hmonth, hday⟩ := Date.of?_eq_some_iff.1 hdate
  refine ⟨⟨date, value.time⟩, (mem_yearVariants_iff hleap).2 ?_, hdateYear, ?_⟩
  · exact ⟨by simpa only [hyear, hdateYear] using hnear, hmonth, hday, rfl⟩
  · rw [DateTime.seconds_eq_secondsOn, hdateYear, hmonth, hday]

theorem natAbs_nearestYear_le_of_near (year : Int)
    (hnear : now.date.year - 1 ≤ year ∧ year ≤ now.date.year + 1) :
    ((nearestYear value now).since (expected now)).natAbs ≤
      ((expected now).sinceOn year value.date.month value.date.day value.time).natAbs := by
  obtain ⟨v, hv, hvyear, -⟩ := exists_variant hleap hyear hfirst hlast year hnear
  have hnearest := nearest?_yearVariants value now
  obtain ⟨-, hmonth, hday, htime⟩ := (mem_yearVariants_iff hleap).1 hv
  obtain ⟨-, -, -, hsame⟩ := (mem_yearVariants_iff hleap).1 (mem_of_nearest? hnearest)
  have hle := natAbs_since_le_of_nearest? hnearest hv (hsame.trans htime.symm)
  rwa [v.since_eq_sinceOn, hvyear, hmonth, hday, htime] at hle

/-- The reference does not precede the first variant, and it does not follow the last one by more
than four months. -/
theorem expected_between :
    DateTime.secondsOn (now.date.year - 1) value.date.month value.date.day value.time ≤
        (expected now).seconds ∧
      (expected now).seconds <
        DateTime.secondsOn (now.date.year + 1) value.date.month value.date.day value.time +
          121 * 86400 := by
  obtain ⟨hlow, hhigh⟩ := expected_bounds hlast
  obtain ⟨v, -, hvyear, hv⟩ := exists_variant hleap hyear hfirst hlast
    (now.date.year - 1) (by omega)
  obtain ⟨w, -, hwyear, hw⟩ := exists_variant hleap hyear hfirst hlast
    (now.date.year + 1) (by omega)
  have hbefore := v.seconds_lt_startOfYear
  have hafter := w.startOfYear_le_seconds
  rw [hvyear, Int.sub_add_cancel] at hbefore
  rw [hwyear] at hafter
  exact ⟨by omega, by omega⟩

/-- No year brings a day other than 29 February nearer to the reference than the year chosen. -/
theorem natAbs_nearestYear_le (year : Int) :
    ((nearestYear value now).since (expected now)).natAbs ≤
      ((expected now).sinceOn year value.date.month value.date.day value.time).natAbs := by
  have hmonth := value.date.month_mem.1
  have hfraction := DateTime.fractionSince_bounds value.time (expected now).time
  obtain ⟨hlow, hhigh⟩ := expected_between hleap hyear hfirst hlast
  rcases lt_or_ge year (now.date.year - 1) with hbefore | hbefore
  · -- The same day of the year before lies between the reference and this one.
    have hnear := natAbs_nearestYear_le_of_near hleap hyear hfirst hlast
      (now.date.year - 1) (by omega)
    have hgap := DateTime.secondsOn_add_le hmonth value.date.day value.time hbefore
    unfold DateTime.sinceOn at hnear ⊢
    omega
  rcases lt_or_ge (now.date.year + 1) year with hafter | hafter
  · -- The reference follows the same day of the next year by four months at most, and this one
    -- follows it by a year at least.
    have hnear := natAbs_nearestYear_le_of_near hleap hyear hfirst hlast
      (now.date.year + 1) (by omega)
    have hgap := DateTime.secondsOn_add_le hmonth value.date.day value.time hafter
    unfold DateTime.sinceOn at hnear ⊢
    omega
  · exact natAbs_nearestYear_le_of_near hleap hyear hfirst hlast year ⟨hbefore, hafter⟩

theorem natAbs_nearestYear_le_halfYear :
    ((nearestYear value now).since (expected now)).natAbs ≤ 183 * 86400 * 1000000000 := by
  have hmonth := value.date.month_mem.1
  have hfraction := DateTime.fractionSince_bounds value.time (expected now).time
  obtain ⟨hlow, hhigh⟩ := expected_between hleap hyear hfirst hlast
  have hnear := natAbs_nearestYear_le_of_near hleap hyear hfirst hlast
  have hback := hnear (now.date.year - 1) (by omega)
  have hhere := hnear now.date.year (by omega)
  have hforth := hnear (now.date.year + 1) (by omega)
  have hgap := DateTime.secondsOn_succ_bounds (now.date.year - 1) hmonth value.date.day value.time
  have hgap' := DateTime.secondsOn_succ_bounds now.date.year hmonth value.date.day value.time
  rw [Int.sub_add_cancel] at hgap
  unfold DateTime.sinceOn at hback hhere hforth
  omega

theorem nearestOccurrence_nearestYear :
    NearestOccurrence (expected now) value (nearestYear value now) := by
  have hmem := mem_of_nearest? (nearest?_yearVariants value now)
  obtain ⟨-, hmonth, hday, htime⟩ := (mem_yearVariants_iff hleap).1 hmem
  exact ⟨hmonth, hday, htime, natAbs_nearestYear_le hleap hyear hfirst hlast⟩

end

/-! ### Whole texts -/

/-- A format is the first of a reader that a text fits, and the text has some value there. -/
def FirstFit (reader : DateReader) (now : DateTime) (raw : Text) (format : DatePattern)
    (value : DateTime) : Prop :=
  ∃ before after, reader.formats = before ++ format :: after ∧
    (∀ other ∈ before, other.parse? reader.locale now raw = none) ∧
    format.parse? reader.locale now raw = some value

theorem readStrict?_eq_some_iff {reader : DateReader} {now : DateTime} {raw : Text}
    {format : DatePattern} {value : DateTime} :
    reader.readStrict? now raw = some (format, value) ↔ reader.FirstFit now raw format value := by
  unfold readStrict? FirstFit
  simp only [List.findSome?_eq_some_iff, Option.map_eq_some_iff, Option.map_eq_none_iff,
    Prod.mk.injEq]
  constructor
  · rintro ⟨before, _, after, hformats, ⟨_, hparse, rfl, rfl⟩, hbefore⟩
    exact ⟨before, after, hformats, hbefore, hparse⟩
  · rintro ⟨before, after, hformats, hbefore, hparse⟩
    exact ⟨before, format, after, hformats, ⟨value, hparse, rfl, rfl⟩, hbefore⟩

/-- **A text that gives no year is read in the year that brings its day nearest to four months from
now**, among all years there are and to the nanosecond; that is within 183 days. -/
theorem read_nearestYear {reader : DateReader} {now : DateTime} {raw : Text} {format : DatePattern}
    {value : DateTime} (hnow : firstYear + 2 ≤ now.date.year ∧ now.date.year ≤ lastYear - 2)
    (hpreserve : reader.preserveYear = false) (hfit : reader.FirstFit now raw format value)
    (hyear : format.namesYear = false)
    (hleap : ¬ (value.date.month = 2 ∧ value.date.day = 29)) :
    ∃ reference v, DateTime.MonthsAfter 4 now reference ∧
      reader.read now raw = some (.valid v) ∧ NearestOccurrence reference value v ∧
      (v.since reference).natAbs ≤ 183 * 86400 * 1000000000 := by
  obtain ⟨before, after, -, -, hparse⟩ := id hfit
  have hvalue := DatePattern.parse?_year hyear hparse
  refine ⟨expected now, nearestYear value now, monthsAfter_expected (by omega), ?_,
    nearestOccurrence_nearestYear hleap hvalue (by omega) (by omega),
    natAbs_nearestYear_le_halfYear hleap hvalue (by omega) (by omega)⟩
  rw [read, readStrict?_eq_some_iff.2 hfit]
  simp only [hyear, hpreserve, Bool.not_false, Bool.and_self, if_true]

/-- Seven tenths of a second past noon of 30 April 2026. -/
def pastAprilNoon : DateTime :=
  ⟨⟨2026, 4, 30, by decide, by decide, by decide⟩,
    { Time.noon with nanosecond := 700000000, nanosecond_lt := by decide }⟩

/-- The start of 1 March of the year of `pastAprilNoon`. -/
def marchStart : DateTime :=
  ⟨⟨2026, 3, 1, by decide, by decide, by decide⟩, Time.midnight⟩

/-- A reader of days with and without a year. -/
def germanDays : DateReader :=
  ⟨[DatePattern.ofText "DD.MM.YYYY", DatePattern.ofText "DD.MM."], Locale.english, false⟩

theorem parts_dayMonth : (DatePattern.ofText "DD.MM.").parts =
    [.token .day2, .literal ['.'], .token .month2, .literal ['.']] := by
  cbv

theorem parts_dayMonthYear : (DatePattern.ofText "DD.MM.YYYY").parts =
    [.token .day2, .literal ['.'], .token .month2, .literal ['.'], .token .year4] := by
  cbv

theorem firstFit_march :
    germanDays.FirstFit pastAprilNoon "01.03." (DatePattern.ofText "DD.MM.") marchStart := by
  refine ⟨[DatePattern.ofText "DD.MM.YYYY"], [], rfl, ?_, ?_⟩
  · intro other hother
    rw [List.mem_singleton.1 hother, DatePattern.parse?, parts_dayMonthYear]
    decide
  · rw [DatePattern.parse?, parts_dayMonth]
    decide

/-- Four months later it is as far from one 1 March to the next, but for a fraction of a second. -/
theorem read_nearestYear_march :
    germanDays.FirstFit pastAprilNoon "01.03." (DatePattern.ofText "DD.MM.") marchStart ∧
      ∃ reference v, DateTime.MonthsAfter 4 pastAprilNoon reference ∧
        germanDays.read pastAprilNoon "01.03." = some (.valid v) ∧
        NearestOccurrence reference marchStart v ∧
        (v.since reference).natAbs ≤ 183 * 86400 * 1000000000 :=
  ⟨firstFit_march, read_nearestYear ⟨by decide, by decide⟩ rfl firstFit_march
    (by rw [DatePattern.namesYear, parts_dayMonth]; decide) (by decide)⟩

/-- That fraction makes the next 1 March the nearer one. -/
example : (nearestYear marchStart pastAprilNoon).date.year = 2027 := by
  decide

end DateReader

end Playbill
