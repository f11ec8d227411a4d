/-!
# Calendar days

The proleptic Gregorian calendar over a fixed range of years.

* `Date`: a day that exists; `Date.of?` checks its parts.
* `Date.number`: the count of days from 1 January of the year 1, which orders days and gives their
  distances.
* `Date.weekday`: the day of the week, Monday first.
* `Date.next?`, `Date.shiftMonths?`: the following day, and the same day some months away.
-/

namespace Playbill

/-- The first year of the calendar. -/
def firstYear : Int := -262143

/-- The last year of the calendar. -/
def lastYear : Int := 262142

/-- A leap year is divisible by 4, and by 400 if it is divisible by 100. -/
def isLeapYear (year : Int) : Bool :=
  year % 4 == 0 && (year % 100 != 0 || year % 400 == 0)

/-- The number of days of a month. -/
def monthLength (year : Int) (month : Nat) : Nat :=
  if month = 2 then
    if isLeapYear year then 29 else 28
  else if month = 4 ∨ month = 6 ∨ month = 9 ∨ month = 11 then 30
  else 31

/-- A day of the calendar. -/
structure Date where
  year : Int
  month : Nat
  day : Nat
  year_mem : firstYear ≤ year ∧ year ≤ lastYear
  month_mem : 1 ≤ month ∧ month ≤ 12
  day_mem : 1 ≤ day ∧ day ≤ monthLength year month
  deriving DecidableEq

namespace Date

/-- The day with the given parts, if it exists. -/
def of? (year : Int) (month day : Nat) : Option Date :=
  if h : (firstYear ≤ year ∧ year ≤ lastYear) ∧ (1 ≤ month ∧ month ≤ 12) ∧
      (1 ≤ day ∧ day ≤ monthLength year month) then
    some ⟨year, month, day, h.1, h.2.1, h.2.2⟩
  else
    none

/-- The days before 1 January of a year, counted from the year 1. -/
def daysBeforeYear (year : Int) : Int :=
  365 * (year - 1) + (year - 1) / 4 - (year - 1) / 100 + (year - 1) / 400

/-- The days of a year before the first of a month. -/
def daysBeforeMonth (year : Int) (month : Nat) : Nat :=
  (List.range (month - 1)).foldr (fun m days => monthLength year (m + 1) + days) 0

/-- The days between 1 January of the year 1 and the day. -/
def number (d : Date) : Int :=
  daysBeforeYear d.year + daysBeforeMonth d.year d.month + (d.day - 1)

/-- The day of the week, from 0 for Monday to 6 for Sunday. -/
def weekday (d : Date) : Nat :=
  (d.number % 7).toNat

/-- The following day, unless the calendar ends. -/
def next? (d : Date) : Option Date :=
  if d.day < monthLength d.year d.month then of? d.year d.month (d.day + 1)
  else if d.month < 12 then of? d.year (d.month + 1) 1
  else of? (d.year + 1) 1 1

/-- The day of the same number some months away; a number that the month lacks becomes its last. -/
def shiftMonths? (d : Date) (months : Int) : Option Date :=
  let total := 12 * d.year + (d.month - 1) + months
  let year := total / 12
  let month := (total % 12).toNat + 1
  of? year month (min d.day (monthLength year month))

end Date

end Playbill
