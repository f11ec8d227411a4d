import Playbill.Calendar.DateTime
import Playbill.DatePattern.Basic
import Playbill.DatePattern.Locale
import Playbill.Text.Alphabetic

/-!
# Reading dates

A text is read strictly against a format, part by part.

* `DateFields`: the units read so far.
* `DatePattern.readLiteral?`, `DatePattern.readToken?`: one part; blanks before it are passed over.
* `DateFields.resolve?`: units that the format lacks are taken from the present.
* `DatePattern.parse?`: the point in time that a whole text stands for.
-/

namespace Playbill

/-- The units read so far. -/
structure DateFields where
  year : Option Int := none
  month : Option Nat := none
  day : Option Nat := none
  hour : Option Nat := none
  minute : Option Nat := none
  second : Option Nat := none
  afternoon : Option Bool := none

/-- The point in time given by some units.  A day alone is of the present month, a month alone means
its first day in the present year, and no date at all means today. -/
def DateFields.resolve? (fields : DateFields) (now : DateTime) : Option DateTime := do
  let today := now.date
  let year := fields.year.getD today.year
  let (month, day) := match fields.month, fields.day with
    | none, some day => (today.month, day)
    | none, none => if fields.year.isNone then (today.month, today.day) else (1, 1)
    | some month, day => (month, day.getD 1)
  let hour := fields.hour.getD 0
  let hour := match fields.afternoon with
    | some true => if hour < 12 then hour + 12 else hour
    | some false => if hour = 12 then 0 else hour
    | none => hour
  let date ← Date.of? year month day
  let time ← Time.of? hour (fields.minute.getD 0) (fields.second.getD 0)
  return ⟨date, time⟩

namespace DatePattern

/-- The text after a literal: blanks of the literal stand for any blanks, and other characters match
without regard to case, with any blanks before them. -/
def readLiteral? : Text → Text → Option Text
  | [], t => some t
  | expected :: literal, t =>
    let t := Text.trimStart t
    if isBlank expected then readLiteral? literal t
    else
      match t with
      | actual :: rest =>
        if lowerChar actual == lowerChar expected then readLiteral? literal rest else none
      | [] => none

/-- A number of at least one and at most `width` digits, its digit count, and the text after it. -/
def number? (width : Nat) (t : Text) : Option (Nat × Nat × Text) :=
  let digits := (t.take width).takeWhile isAsciiDigit
  if digits.isEmpty then none
  else some (Text.natOfDigits digits, digits.length, t.drop digits.length)

/-- A year of two digits lies between 1969 and 2068. -/
def shortYear (year : Nat) : Int :=
  if year < 69 then 2000 + year else 1900 + year

/-- The text after a beginning that equals the given one up to case and has as many bytes. -/
def dropIgnoringCase? (beginning t : Text) : Option Text :=
  match Text.takeBytes? (Text.utf8Length beginning) t with
  | some (head, rest) => if Text.lower head == Text.lower beginning then some rest else none
  | none => none

/-- Every form of every month of a locale, with the number of the month. -/
def monthForms (locale : Locale) : List (Nat × Text) :=
  let numbered (names : List Text) := names.mapIdx fun i name => (i + 1, name)
  numbered locale.months ++ numbered (locale.monthsGenitive.getD []) ++
    numbered locale.monthsShort

/-- The month form that starts the text, the longest one in bytes and of equally long ones the last,
and the text after it. -/
def readMonth? (locale : Locale) (t : Text) : Option (Nat × Text) :=
  let found := (monthForms locale).filterMap fun (month, name) =>
    (dropIgnoringCase? name t).map fun rest => (Text.utf8Length name, month, rest)
  let longest := found.foldl (fun best next =>
    match best with
    | some b => if b.1 ≤ next.1 then some next else best
    | none => some next) none
  longest.map (·.2)

/-- Passes over the dot of an abbreviation, unless the format itself has one there. -/
def dropDot (nextLiteral : Option Char) (t : Text) : Text :=
  match t with
  | '.' :: rest => if nextLiteral == some '.' then t else rest
  | _ => t

/-- The half of the day at the start of the text, `true` for the afternoon, and the text after it.
-/
def readMeridiem? (t : Text) : Option (Bool × Text) :=
  let markers : List (Text × Bool) :=
    [("a.m.", false), ("p.m.", true), ("am", false), ("pm", true)]
  markers.findSome? fun (marker, afternoon) =>
    (dropIgnoringCase? marker t).map fun rest => (afternoon, rest)

/-- One unit at the start of the text: the fields with it and the text after it. -/
def readToken? (locale : Locale) (token : DateToken) (nextLiteral : Option Char)
    (fields : DateFields) (t : Text) : Option (DateFields × Text) :=
  match token with
  | .year4 => (number? 4 t).map fun (value, count, rest) =>
    let year := if count ≤ 2 then shortYear value else (value : Int)
    ({ fields with year := some year }, rest)
  | .year2 => (number? 2 t).map fun (value, _, rest) =>
    ({ fields with year := some (shortYear value) }, rest)
  | .month2 | .month => (number? 2 t).map fun (value, _, rest) =>
    ({ fields with month := some value }, rest)
  | .monthName | .monthShort => (readMonth? locale t).map fun (month, rest) =>
    ({ fields with month := some month }, dropDot nextLiteral rest)
  | .day2 | .day => (number? 2 t).map fun (value, _, rest) =>
    ({ fields with day := some value }, rest)
  | .dayOrdinal => (number? 2 t).map fun (value, _, rest) =>
    ({ fields with day := some value }, rest.dropWhile fun c => isAlphabetic c || c == 'º')
  | .weekdayName | .weekdayShort | .weekdayMin =>
    let inName (c : Char) := isAlphabetic c || c == '-'
    if (t.takeWhile inName).isEmpty then none
    else some (fields, dropDot nextLiteral (t.dropWhile inName))
  | .hour24Padded | .hour24 | .hour12Padded | .hour12 =>
    (number? 2 t).map fun (value, _, rest) => ({ fields with hour := some value }, rest)
  | .minutePadded | .minute => (number? 2 t).map fun (value, _, rest) =>
    ({ fields with minute := some value }, rest)
  | .secondPadded | .second => (number? 2 t).map fun (value, _, rest) =>
    ({ fields with second := some value }, rest)
  | .meridiemUpper | .meridiemLower => (readMeridiem? t).map fun (afternoon, rest) =>
    ({ fields with afternoon := some afternoon }, rest)

/-- The first character of the literal that comes next, if a literal does. -/
def nextLiteral : List FormatPart → Option Char
  | .literal (c :: _) :: _ => some c
  | _ => none

/-- All parts in order: the fields and the text after them. -/
def readParts? (locale : Locale) : List FormatPart → DateFields → Text →
    Option (DateFields × Text)
  | [], fields, t => some (fields, t)
  | .literal literal :: parts, fields, t =>
    (readLiteral? literal t).bind (readParts? locale parts fields)
  | .token token :: parts, fields, t =>
    (readToken? locale token (nextLiteral parts) fields (Text.trimStart t)).bind
      fun (fields, rest) => readParts? locale parts fields rest

/-- The point in time that a text stands for.  The whole text has to be read; only blanks may
remain. -/
def parse? (format : DatePattern) (locale : Locale) (now : DateTime) (input : Text) :
    Option DateTime :=
  match readParts? locale format.parts {} input with
  | some (fields, rest) => if (Text.trimStart rest).isEmpty then fields.resolve? now else none
  | none => none

end DatePattern

end Playbill
