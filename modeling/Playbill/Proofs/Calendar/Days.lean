import Mathlib.Tactic
import Playbill.Calendar.DateTime

/-!
# Days, months and years

* `Date.of?_eq_some_iff`, `Date.shiftMonths?_eq_some_iff`: the days that the two operations give.
* `DateTime.MonthsAfter`: a point in time some months after another.
* `DateTime.secondsOn`: a day and a time of any year, also outside the calendar.
* `DateTime.secondsOn_succ_bounds`, `DateTime.secondsOn_add_le`: how far apart the same day of two
  years is.
* `DateTime.secondsSince_le_iff`: at one time of day, distances in whole seconds compare as those in
  nanoseconds do.
* `DateTime.seconds_lt_of_lt`, `DateTime.le_seconds_of_le`, `DateTime.startOfYear_le_seconds`,
  `DateTime.seconds_lt_startOfYear`: where a point in time lies in its year.
-/

namespace Playbill

attribute [ext] Date DateTime

/-- The middle of a day. -/
def Time.noon : Time :=
  { Time.midnight with hour := 12, hour_lt := by decide }

/-! ### Lengths -/

theorem isLeapYear_iff {year : Int} :
    isLeapYear year ↔ year % 4 = 0 ∧ (year % 100 ≠ 0 ∨ year % 400 = 0) := by
  simp [isLeapYear]

/-- Only the length of February depends on the year. -/
theorem monthLength_eq_of_ne {month : Nat} (h : month ≠ 2) (year other : Int) :
    monthLength year month = monthLength other month := by
  simp [monthLength, h]

theorem le_monthLength_two_iff {year : Int} {day : Nat} :
    day ≤ monthLength year 2 ↔ day ≤ 28 ∨ (day = 29 ∧ isLeapYear year) := by
  cases h : isLeapYear year <;> simp [monthLength, h]
  omega

/-- Every day but 29 February exists in every year. -/
theorem le_monthLength_of_not_leapDay {month day : Nat} {year : Int}
    (h : day ≤ monthLength year month) (hleap : ¬ (month = 2 ∧ day = 29)) (other : Int) :
    day ≤ monthLength other month := by
  by_cases hmonth : month = 2
  · subst hmonth
    rw [le_monthLength_two_iff] at h ⊢
    omega
  · rwa [monthLength_eq_of_ne hmonth other year]

theorem Date.day_le (d : Date) : d.day ≤ 31 := by
  have hle : monthLength d.year d.month ≤ 31 := by
    unfold monthLength
    split_ifs <;> decide
  exact d.day_mem.2.trans hle

/-! ### Days that exist -/

theorem Date.of?_self (d : Date) : Date.of? d.year d.month d.day = some d := by
  simp [Date.of?, d.year_mem, d.month_mem, d.day_mem]

theorem Time.of?_self {t : Time} (h : t.nanosecond = 0) :
    Time.of? t.hour t.minute t.second = some t := by
  simp [Time.of?, t.hour_lt, t.minute_lt, t.second_lt, ← h]

namespace Date

theorem of?_eq_some_iff {year : Int} {month day : Nat} {d : Date} :
    of? year month day = some d ↔ d.year = year ∧ d.month = month ∧ d.day = day := by
  constructor
  · intro h
    unfold of? at h
    split_ifs at h
    cases h
    exact ⟨rfl, rfl, rfl⟩
  · rintro ⟨rfl, rfl, rfl⟩
    exact of?_self d

theorem exists_of? {year : Int} {month day : Nat} (hyear : firstYear ≤ year ∧ year ≤ lastYear)
    (hmonth : 1 ≤ month ∧ month ≤ 12) (hday : 1 ≤ day ∧ day ≤ monthLength year month) :
    ∃ d, of? year month day = some d :=
  ⟨⟨year, month, day, hyear, hmonth, hday⟩, of?_eq_some_iff.2 ⟨rfl, rfl, rfl⟩⟩

theorem shiftMonths?_eq_some_iff {d e : Date} {months : Int} :
    d.shiftMonths? months = some e ↔
      12 * e.year + e.month = 12 * d.year + d.month + months ∧
        e.day = min d.day (monthLength e.year e.month) := by
  have hmonth := e.month_mem
  unfold shiftMonths?
  simp only [of?_eq_some_iff]
  constructor
  · rintro ⟨hy, hm, hd⟩
    rw [← hy, ← hm] at hd
    exact ⟨by omega, hd⟩
  · rintro ⟨htotal, hd⟩
    have hy : e.year = (12 * d.year + (d.month - 1) + months) / 12 := by omega
    have hm : e.month = ((12 * d.year + (d.month - 1) + months) % 12).toNat + 1 := by omega
    rw [← hy, ← hm]
    exact ⟨rfl, rfl, hd⟩

/-- The shifted day exists if its year is one of the calendar. -/
theorem isSome_shiftMonths? {d : Date} {months : Int}
    (hfirst : 12 * firstYear < 12 * d.year + d.month + months)
    (hlast : 12 * d.year + d.month + months ≤ 12 * lastYear + 12) :
    (d.shiftMonths? months).isSome := by
  unfold shiftMonths? of?
  rw [dif_pos]
  · rfl
  · have hlength (year : Int) (month : Nat) : 1 ≤ monthLength year month := by
      unfold monthLength
      split_ifs <;> decide
    have hday := d.day_mem.1
    exact ⟨by omega, by omega, le_min hday (hlength _ _), min_le_right _ _⟩

end Date

namespace DateTime

/-- A point in time some months after another: at the same time of the day of the same number, or of
the last day of a month that lacks this number. -/
structure MonthsAfter (months : Int) (v w : DateTime) : Prop where
  month_eq : 12 * w.date.year + w.date.month = 12 * v.date.year + v.date.month + months
  day_eq : w.date.day = min v.date.day (monthLength w.date.year w.date.month)
  time_eq : w.time = v.time

theorem shiftMonths?_eq_some_iff {v w : DateTime} {months : Int} :
    v.shiftMonths? months = some w ↔ MonthsAfter months v w := by
  unfold shiftMonths?
  rw [Option.map_eq_some_iff]
  constructor
  · rintro ⟨date, hdate, rfl⟩
    obtain ⟨hmonth, hday⟩ := Date.shiftMonths?_eq_some_iff.1 hdate
    exact ⟨hmonth, hday, rfl⟩
  · rintro ⟨hmonth, hday, htime⟩
    exact ⟨w.date, Date.shiftMonths?_eq_some_iff.2 ⟨hmonth, hday⟩, DateTime.ext rfl htime.symm⟩

theorem exists_shiftMonths? {v : DateTime} {months : Int}
    (hfirst : 12 * firstYear < 12 * v.date.year + v.date.month + months)
    (hlast : 12 * v.date.year + v.date.month + months ≤ 12 * lastYear + 12) :
    ∃ w, v.shiftMonths? months = some w := by
  obtain ⟨date, hdate⟩ := Option.isSome_iff_exists.1 (Date.isSome_shiftMonths? hfirst hlast)
  exact ⟨⟨date, v.time⟩, by rw [shiftMonths?, hdate, Option.map_some]⟩

/-! ### Seconds -/

/-- The seconds from the start of the year 1 to a day and a time of any year. -/
def secondsOn (year : Int) (month day : Nat) (time : Time) : Int :=
  (Date.daysBeforeYear year + Date.daysBeforeMonth year month + (day - 1)) * 86400 + time.seconds

theorem seconds_eq_secondsOn (v : DateTime) :
    v.seconds = secondsOn v.date.year v.date.month v.date.day v.time :=
  rfl

theorem daysBeforeYear_succ (year : Int) :
    Date.daysBeforeYear (year + 1) =
      Date.daysBeforeYear year + if isLeapYear year then 366 else 365 := by
  unfold Date.daysBeforeYear
  by_cases h : isLeapYear year
  · rw [if_pos h]
    rw [isLeapYear_iff] at h
    omega
  · rw [if_neg h]
    rw [isLeapYear_iff] at h
    omega

theorem daysBeforeMonth_eq_sum (year : Int) (month : Nat) :
    Date.daysBeforeMonth year month =
      ((List.range (month - 1)).map fun m => monthLength year (m + 1)).sum := by
  rw [Date.daysBeforeMonth, List.sum_eq_foldr, List.foldr_map]

theorem daysBeforeMonth_succ (year : Int) {month : Nat} (h : 1 ≤ month) :
    Date.daysBeforeMonth year (month + 1) =
      Date.daysBeforeMonth year month + monthLength year month := by
  obtain ⟨m, rfl⟩ := Nat.exists_eq_add_of_le' h
  simp only [daysBeforeMonth_eq_sum, Nat.add_sub_cancel, List.range_succ, List.map_append,
    List.map_cons, List.map_nil, List.sum_append, List.sum_singleton]

theorem monthLength_eq (year : Int) (month : Nat) :
    monthLength year month =
      monthLength 1 month + if month = 2 ∧ isLeapYear year then 1 else 0 := by
  by_cases hmonth : month = 2
  · subst hmonth
    cases h : isLeapYear year <;> simp [monthLength, h] <;> decide
  · rw [monthLength_eq_of_ne hmonth year 1, if_neg fun h => hmonth h.1, Nat.add_zero]

/-- The months after February start a day later in a leap year. -/
theorem daysBeforeMonth_eq (year : Int) {month : Nat} (h : 1 ≤ month) :
    Date.daysBeforeMonth year month =
      Date.daysBeforeMonth 1 month + if 2 < month ∧ isLeapYear year then 1 else 0 := by
  induction month, h using Nat.le_induction with
  | base => rfl
  | succ month hmonth ih =>
    rw [daysBeforeMonth_succ year hmonth, daysBeforeMonth_succ 1 hmonth, ih, monthLength_eq year]
    by_cases hleap : isLeapYear year
    · simp only [hleap, and_true]
      split_ifs <;> omega
    · simp only [hleap, Bool.false_eq_true, and_false, if_false, Nat.add_zero]

/-- After February the months are as far apart in every year. -/
theorem daysBeforeMonth_add (year : Int) (month later : Nat) (h : 2 < month) (h' : 2 < later) :
    Date.daysBeforeMonth year later + Date.daysBeforeMonth 1 month =
      Date.daysBeforeMonth year month + Date.daysBeforeMonth 1 later := by
  rw [daysBeforeMonth_eq year (by omega : 1 ≤ month),
    daysBeforeMonth_eq year (by omega : 1 ≤ later)]
  simp only [h, h', true_and]
  omega

theorem secondsOn_succ_bounds (year : Int) {month : Nat} (hmonth : 1 ≤ month) (day : Nat)
    (time : Time) :
    secondsOn year month day time + 365 * 86400 ≤ secondsOn (year + 1) month day time ∧
      secondsOn (year + 1) month day time ≤ secondsOn year month day time + 366 * 86400 := by
  -- Between the two lies one 29 February at most: of the first year if the month is an early one,
  -- of the second year if it is not.
  have hleap : isLeapYear year → ¬ isLeapYear (year + 1) := by
    simp only [isLeapYear_iff]
    omega
  unfold secondsOn
  rw [daysBeforeYear_succ, daysBeforeMonth_eq year hmonth, daysBeforeMonth_eq (year + 1) hmonth]
  by_cases hearly : 2 < month
  · simp only [hearly, true_and]
    by_cases hyear : isLeapYear year
    · simp only [hyear, hleap hyear, Bool.false_eq_true, if_true, if_false]
      omega
    · simp only [hyear, Bool.false_eq_true, if_false]
      split_ifs <;> omega
  · simp only [hearly, false_and, if_false]
    split_ifs <;> omega

theorem secondsOn_add_le {month : Nat} (hmonth : 1 ≤ month) (day : Nat) (time : Time)
    {year later : Int} (h : year < later) :
    secondsOn year month day time + 365 * 86400 ≤ secondsOn later month day time := by
  induction later, h using Int.leInduction with
  | base => exact (secondsOn_succ_bounds year hmonth day time).1
  | succ later _ ih =>
    have hstep := (secondsOn_succ_bounds later hmonth day time).1
    omega

/-! ### Nanoseconds -/

/-- The nanoseconds from the start of the year 1.  Those of a leap second are counted from the second
before it. -/
def nanoseconds (v : DateTime) : Int :=
  v.seconds * 1000000000 + v.time.nanosecond

/-- The nanoseconds from a point in time to a day and a time of any year. -/
def sinceOn (reference : DateTime) (year : Int) (month day : Nat) (time : Time) : Int :=
  (secondsOn year month day time - reference.seconds) * 1000000000 +
    time.fractionSince reference.time

theorem since_eq_sinceOn (v reference : DateTime) :
    v.since reference = reference.sinceOn v.date.year v.date.month v.date.day v.time :=
  rfl

theorem fractionSince_bounds (t u : Time) :
    -3000000000 < t.fractionSince u ∧ t.fractionSince u < 3000000000 := by
  have ht := t.nanosecond_lt
  have hu := u.nanosecond_lt
  unfold Time.fractionSince Time.leapSecondsSince
  split_ifs <;> omega

/-- No leap second matters to the start of a day. -/
theorem since_of_midnight {v : DateTime} (h : v.time = Time.midnight) (reference : DateTime) :
    v.since reference = v.seconds * 1000000000 - reference.nanoseconds := by
  have hlater : ¬ reference.time.seconds < Time.midnight.seconds := Nat.not_lt_zero _
  have hwhole : ¬ 1000000000 ≤ Time.midnight.nanosecond := by decide
  have hzero : Time.midnight.nanosecond = 0 := rfl
  rw [since, nanoseconds, h, Time.fractionSince, Time.leapSecondsSince, if_neg fun h => hlater h.1,
    if_neg fun h => hwhole h.2, hzero]
  omega

/-- Two numbers of nanoseconds that differ by an even number of seconds are compared by their whole
seconds: where these are the same, the fractions are equal, or add up to two seconds at least. -/
theorem natAbs_tdiv_le_iff {a b : Int} (h : (a - b) % 2000000000 = 0) :
    (a.tdiv 1000000000).natAbs ≤ (b.tdiv 1000000000).natAbs ↔ a.natAbs ≤ b.natAbs := by
  have hwhole (c : Int) : (c.tdiv 1000000000).natAbs = c.natAbs / 1000000000 :=
    Int.natAbs_tdiv c 1000000000
  rw [hwhole, hwhole]
  omega

/-- Between points in time at the same time of day there are whole days, which have an even number
of seconds. -/
theorem secondsSince_le_iff {v w : DateTime} (h : v.time = w.time) (reference : DateTime) :
    (v.secondsSince reference).natAbs ≤ (w.secondsSince reference).natAbs ↔
      (v.since reference).natAbs ≤ (w.since reference).natAbs := by
  refine natAbs_tdiv_le_iff ?_
  unfold since seconds
  rw [h]
  omega

/-! ### Places in a year -/

theorem seconds_lt_day (t : Time) : t.seconds < 86400 := by
  have hhour := t.hour_lt
  have hminute := t.minute_lt
  have hsecond := t.second_lt
  unfold Time.seconds
  omega

/-- The seconds before the first of January of a year. -/
def startOfYear (year : Int) : Int :=
  Date.daysBeforeYear year * 86400

theorem daysBeforeMonth_mono (year : Int) {month later : Nat} (hmonth : 1 ≤ month)
    (h : month ≤ later) : Date.daysBeforeMonth year month ≤ Date.daysBeforeMonth year later := by
  induction later, h using Nat.le_induction with
  | base => exact le_rfl
  | succ later hlater ih =>
    rw [daysBeforeMonth_succ year (hmonth.trans hlater)]
    omega

/-- A point in time lies before the first of any later month of its year. -/
theorem seconds_lt_of_lt (v : DateTime) (month : Nat) (h : v.date.month < month) :
    v.seconds < startOfYear v.date.year + Date.daysBeforeMonth v.date.year month * 86400 := by
  have hnext : Date.daysBeforeMonth v.date.year (v.date.month + 1) ≤ _ :=
    daysBeforeMonth_mono v.date.year (Nat.le_add_left 1 _) h
  have hmonth := daysBeforeMonth_succ v.date.year v.date.month_mem.1
  have hday := v.date.day_mem
  have htime := seconds_lt_day v.time
  unfold seconds Date.number startOfYear
  omega

/-- A point in time does not lie before the first of its month or of an earlier one of its year. -/
theorem le_seconds_of_le (v : DateTime) (month : Nat) (hmonth : 1 ≤ month)
    (h : month ≤ v.date.month) :
    startOfYear v.date.year + Date.daysBeforeMonth v.date.year month * 86400 ≤ v.seconds := by
  have hle := daysBeforeMonth_mono v.date.year hmonth h
  have hday := v.date.day_mem.1
  unfold seconds Date.number startOfYear
  omega

theorem startOfYear_le_seconds (v : DateTime) : startOfYear v.date.year ≤ v.seconds := by
  have hle := v.le_seconds_of_le 1 le_rfl v.date.month_mem.1
  have hfirst : Date.daysBeforeMonth v.date.year 1 = 0 := rfl
  omega

theorem startOfYear_succ (year : Int) :
    startOfYear (year + 1) = startOfYear year + (if isLeapYear year then 366 else 365) * 86400 := by
  rw [startOfYear, daysBeforeYear_succ, Int.add_mul, startOfYear]

/-- A year is as long as its twelve months. -/
theorem startOfYear_succ_eq (year : Int) :
    startOfYear (year + 1) = startOfYear year + Date.daysBeforeMonth year 13 * 86400 := by
  have hcommon : Date.daysBeforeMonth 1 13 = 365 := rfl
  rw [startOfYear_succ, daysBeforeMonth_eq year (by omega), hcommon]
  cases isLeapYear year <;> rfl

theorem seconds_lt_startOfYear (v : DateTime) : v.seconds < startOfYear (v.date.year + 1) := by
  rw [startOfYear_succ_eq]
  exact v.seconds_lt_of_lt 13 (Nat.lt_succ_of_le v.date.month_mem.2)

end DateTime

end Playbill
