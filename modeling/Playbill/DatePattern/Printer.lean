import Playbill.Calendar.DateTime
import Playbill.DatePattern.Basic
import Playbill.DatePattern.Locale

/-!
# Writing dates

* `DatePattern.unitText`: one unit of a point in time.
* `DatePattern.render`: a point in time in a format.
-/

namespace Playbill.DatePattern

/-- The entry of a list of names, or nothing past its end. -/
def nameAt (names : List Text) (index : Nat) : Text :=
  names[index]?.getD []

/-- The hour on a twelve-hour clock. -/
def hour12 (hour : Nat) : Nat :=
  if hour % 12 = 0 then 12 else hour % 12

/-- One unit of a point in time. -/
def unitText (locale : Locale) (value : DateTime) : DateToken → Text
  | .year4 => Text.paddedInt 4 value.date.year
  | .year2 => Text.padded 2 (value.date.year % 100).toNat
  | .monthName => nameAt locale.months (value.date.month - 1)
  | .monthShort => nameAt locale.monthsShort (value.date.month - 1)
  | .month2 => Text.padded 2 value.date.month
  | .month => Text.ofNat value.date.month
  | .dayOrdinal => locale.ordinal.text value.date.day
  | .day2 => Text.padded 2 value.date.day
  | .day => Text.ofNat value.date.day
  | .weekdayName => nameAt locale.weekdays value.date.weekday
  | .weekdayShort | .weekdayMin => nameAt locale.weekdaysShort value.date.weekday
  | .hour24Padded => Text.padded 2 value.time.hour
  | .hour24 => Text.ofNat value.time.hour
  | .hour12Padded => Text.padded 2 (hour12 value.time.hour)
  | .hour12 => Text.ofNat (hour12 value.time.hour)
  | .minutePadded => Text.padded 2 value.time.minute
  | .minute => Text.ofNat value.time.minute
  | .secondPadded => Text.padded 2 value.time.second
  | .second => Text.ofNat value.time.second
  | .meridiemUpper => if value.time.hour < 12 then "AM" else "PM"
  | .meridiemLower => if value.time.hour < 12 then "am" else "pm"

/-- One part of a format. -/
def partText (locale : Locale) (value : DateTime) : FormatPart → Text
  | .literal text => text
  | .token token => unitText locale value token

/-- A point in time in a format. -/
def render (format : DatePattern) (locale : Locale) (value : DateTime) : Text :=
  format.parts.flatMap (partText locale value)

end Playbill.DatePattern
