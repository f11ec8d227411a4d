import Playbill.Context.Basic
import Playbill.DatePattern.Reader
import Playbill.Declaration.Basic
import Playbill.Failure
import Playbill.Json.Printer
import Playbill.RelativeDay.Words

/-!
# Dates of events

What a page prints as a date becomes a point in time: by the configured formats first, with the year
inferred where the format has none, and by relative day words otherwise.

* `EventDate`: a date, or the text that is none.
* `DateReader`: formats, locale, and whether a year is kept as read.
* `DateReader.nearestYear`: the year variant nearest to four months from now.
* `DateReader.read`: one text.
* `DateReader.readAll`, `DateReader.readValues`: lists of texts and dates, and of JSON values.
-/

namespace Playbill

/-- A date that was understood, or the text that was not. -/
inductive EventDate
  | valid (value : DateTime)
  | invalid (raw : Text)
  deriving DecidableEq

/-- What may stand for a date: a text, a point in time, or a date that was read before. -/
inductive DateSource
  | raw (text : Text)
  | native (value : DateTime)
  | normalized (value : EventDate)
  deriving DecidableEq

/-- Why dates could not be mapped: an input is at fault, or a relative day lies past the end of the
calendar. -/
inductive DateFailure
  | rejected (error : ExtractionFailure)
  | outsideCalendar
  deriving DecidableEq

/-- A reader of dates. -/
structure DateReader where
  formats : List DatePattern
  locale : Locale
  preserveYear : Bool

namespace DateReader

/-- The reader of some settings. -/
def ofSettings (settings : DateSettings) : DateReader where
  formats := settings.format.toList.map DatePattern.ofText
  locale := Locale.ofCode settings.locale
  preserveYear := settings.preserveYear

/-- How many months ahead of the present events are expected. -/
def lookahead : Int := 4

/-- The point in time around which events are expected. -/
def expected (now : DateTime) : DateTime :=
  (now.shiftMonths? lookahead).getD now

/-- The first of some points in time that is nearest to a reference, counted in whole seconds. -/
def nearest? (reference : DateTime) : List DateTime → Option DateTime
  | [] => none
  | value :: rest =>
    match nearest? reference rest with
    | none => some value
    | some best =>
      if (value.secondsSince reference).natAbs ≤ (best.secondsSince reference).natAbs then some value
      else some best

/-- The variants of a point in time in the year before, the same year and the year after. -/
def yearVariants (value : DateTime) : List DateTime :=
  [value.shiftMonths? (-12), some value, value.shiftMonths? 12].filterMap id

/-- The variant nearest to the point in time around which events are expected. -/
def nearestYear (value now : DateTime) : DateTime :=
  (nearest? (expected now) (yearVariants value)).getD value

/-- The first configured format that a text fits, and the value it has there. -/
def readStrict? (reader : DateReader) (now : DateTime) (raw : Text) :
    Option (DatePattern × DateTime) :=
  reader.formats.findSome? fun format =>
    (format.parse? reader.locale now raw).map fun value => (format, value)

/-- The days from the present that a text names by a relative word. -/
def relativeDays? (raw : Text) : Option Nat :=
  if wordsForDayAfter.matchesText raw then some 2
  else if wordsForTomorrow.matchesText raw then some 1
  else if wordsForToday.matchesText raw then some 0
  else none

/-- The day so many days later, unless the calendar ends. -/
def laterDay? (date : Date) : Nat → Option Date
  | 0 => some date
  | days + 1 => (laterDay? date days).bind Date.next?

/-- The date that a text stands for; `none` when a relative day lies past the end of the calendar.
-/
def read (reader : DateReader) (now : DateTime) (raw : Text) : Option EventDate :=
  match reader.readStrict? now raw with
  | some (format, value) =>
    if !format.namesYear && !reader.preserveYear then some (.valid (nearestYear value now))
    else some (.valid value)
  | none =>
    match relativeDays? raw with
    | some days => (laterDay? now.date days).map fun date => .valid ⟨date, Time.midnight⟩
    | none => some (.invalid raw)

/-- One input at an index.  A blank text is an error. -/
def readInput (reader : DateReader) (now : DateTime) (index : Nat) :
    DateSource → Except DateFailure EventDate
  | .raw text =>
    if (Text.trim text).isEmpty then .error (.rejected (.blankDate index))
    else
      match reader.read now text with
      | some date => .ok date
      | none => .error .outsideCalendar
  | .native value => .ok (.valid value)
  | .normalized value => .ok value

/-- The code of the warning about a text that is no date. -/
def invalidDateCode : Text := "INVALID_DATE"

/-- Records a warning if a date was not understood. -/
def warnInvalid (c : Context) (index : Nat) : EventDate → Recording Unit
  | .invalid raw => c.warn invalidDateCode
      ("Unparsable date '".toList ++ raw ++ "' at index ".toList ++ Text.ofNat index)
  | .valid _ => pure ()

/-- Inputs from an index on, until the first error. -/
def readFrom (reader : DateReader) (now : DateTime) (c : Context) :
    Nat → List DateSource → Recording (Except DateFailure (List EventDate))
  | _, [] => return .ok []
  | index, input :: inputs => do
    match reader.readInput now index input with
    | .error failure => return .error failure
    | .ok date =>
      warnInvalid c index date
      return (← readFrom reader now c (index + 1) inputs).map (date :: ·)

/-- Every input in order. -/
def readAll (reader : DateReader) (now : DateTime) (c : Context) (inputs : List DateSource) :
    Recording (Except DateFailure (List EventDate)) :=
  readFrom reader now c 0 inputs

/-- A JSON value at an index as an input: only a text that is not blank is one. -/
def inputOfValue (index : Nat) : Json → Except ExtractionFailure DateSource
  | .string raw =>
    if (Text.trim raw).isEmpty then .error (.blankDate index) else .ok (.raw raw)
  | .null => .error (.blankDate index)
  | .bool false => .error (.blankDate index)
  | value => .error (.notDateText index value.compact)

/-- JSON values from an index on as inputs, or the error of the first that is none. -/
def inputsFrom : Nat → List Json → Except ExtractionFailure (List DateSource)
  | _, [] => .ok []
  | index, value :: values => do
    let input ← inputOfValue index value
    return input :: (← inputsFrom (index + 1) values)

/-- Every JSON value in order; nothing is read unless all of them are texts. -/
def readValues (reader : DateReader) (now : DateTime) (c : Context) (values : List Json) :
    Recording (Except DateFailure (List EventDate)) :=
  match inputsFrom 0 values with
  | .error error => return .error (.rejected error)
  | .ok inputs => reader.readAll now c inputs

end DateReader

end Playbill
