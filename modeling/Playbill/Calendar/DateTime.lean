import Playbill.Calendar.Date
import Playbill.Text.Basic

/-!
# Points in time

A day with a time of day down to nanoseconds.

* `Time`, `DateTime`: the values; `Time.of?` checks the parts of a whole second.
* `DateTime.since`: the nanoseconds between two points in time; `DateTime.secondsSince`: its whole
  seconds.
* `Date.text`, `DateTime.text`: the written form down to seconds, with a sign for years outside four
  digits.
* `DateTime.read?`: the value that such a text stands for.
-/

namespace Playbill

/-- A time of day.  A leap second belongs to the second before it, with a nanosecond from 1000000000
on. -/
structure Time where
  hour : Nat
  minute : Nat
  second : Nat
  nanosecond : Nat
  hour_lt : hour < 24
  minute_lt : minute < 60
  second_lt : second < 60
  nanosecond_lt : nanosecond < 2000000000
  deriving DecidableEq

/-- The whole second with the given parts, if it exists. -/
def Time.of? (hour minute second : Nat) : Option Time :=
  if h : hour < 24 ∧ minute < 60 ∧ second < 60 then
    some ⟨hour, minute, second, 0, h.1, h.2.1, h.2.2, by decide⟩
  else
    none

/-- The start of a day. -/
def Time.midnight : Time :=
  ⟨0, 0, 0, 0, by decide, by decide, by decide, by decide⟩

/-- The whole seconds since midnight. -/
def Time.seconds (t : Time) : Nat :=
  (t.hour * 60 + t.minute) * 60 + t.second

/-- The leap seconds between the whole seconds of two times of day, counted from the second one to the
first: none, unless the earlier of the two is in one itself. -/
def Time.leapSecondsSince (t u : Time) : Int :=
  if u.seconds < t.seconds ∧ 1000000000 ≤ u.nanosecond then 1
  else if t.seconds < u.seconds ∧ 1000000000 ≤ t.nanosecond then -1
  else 0

/-- The nanoseconds between two times of day beyond the difference of their whole seconds. -/
def Time.fractionSince (t u : Time) : Int :=
  t.leapSecondsSince u * 1000000000 + ((t.nanosecond : Int) - u.nanosecond)

/-- A day and a time. -/
structure DateTime where
  date : Date
  time : Time
  deriving DecidableEq

namespace DateTime

/-- The whole seconds from the start of the year 1. -/
def seconds (v : DateTime) : Int :=
  v.date.number * 86400 + v.time.seconds

/-- The nanoseconds from one point in time to another. -/
def since (v reference : DateTime) : Int :=
  (v.seconds - reference.seconds) * 1000000000 + v.time.fractionSince reference.time

/-- The whole seconds from one point in time to another, truncated toward zero. -/
def secondsSince (v reference : DateTime) : Int :=
  (v.since reference).tdiv 1000000000

/-- The same time some months away. -/
def shiftMonths? (v : DateTime) (months : Int) : Option DateTime :=
  (v.date.shiftMonths? months).map fun date => { v with date }

end DateTime

/-- A year in at least four digits, with a sign when it lies outside 0 to 9999. -/
def yearText (year : Int) : Text :=
  if 0 ≤ year ∧ year ≤ 9999 then Text.padded 4 year.toNat
  else if year < 0 then '-' :: Text.padded 4 year.natAbs
  else '+' :: Text.padded 4 year.natAbs

/-- The written form of a day. -/
def Date.text (d : Date) : Text :=
  yearText d.year ++ ['-'] ++ Text.padded 2 d.month ++ ['-'] ++ Text.padded 2 d.day

/-- The written form of a time of day, down to the second. -/
def Time.text (t : Time) : Text :=
  Text.padded 2 t.hour ++ [':'] ++ Text.padded 2 t.minute ++ [':'] ++ Text.padded 2 t.second

namespace DateTime

/-- The written form of a point in time, down to the second. -/
def text (v : DateTime) : Text :=
  v.date.text ++ ['T'] ++ v.time.text

/-- The year, month and day of a written day after its sign. -/
def readDate? (negative : Bool) (t : Text) : Option Date :=
  match Text.pieces '-' t with
  | [year, month, day] => do
    let year ← Text.natOfDigits? year
    let month ← Text.natOfDigits? month
    let day ← Text.natOfDigits? day
    Date.of? (if negative then -(year : Int) else year) month day
  | _ => none

/-- The value of a written time of day. -/
def readTime? (t : Text) : Option Time :=
  match Text.pieces ':' t with
  | [hour, minute, second] => do
    let hour ← Text.natOfDigits? hour
    let minute ← Text.natOfDigits? minute
    let second ← Text.natOfDigits? second
    Time.of? hour minute second
  | _ => none

/-- The value of a written point in time. -/
def read? (t : Text) : Option DateTime :=
  match Text.pieces 'T' t with
  | [date, time] => do
    let date ← match date with
      | '-' :: rest => readDate? true rest
      | '+' :: rest => readDate? false rest
      | _ => readDate? false date
    let time ← readTime? time
    return ⟨date, time⟩
  | _ => none

end DateTime

end Playbill
