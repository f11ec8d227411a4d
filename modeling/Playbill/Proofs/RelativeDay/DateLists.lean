import Mathlib.Data.Set.List
import Playbill.Proofs.Context.Growth
import Playbill.Proofs.RelativeDay.Collapse

/-!
# Lists of dates

A list of JSON values is read as dates only if every value is a text that is not blank.  Then each
text is read by itself, and a warning is recorded about the first that is no date.

* `DateReader.rejection`: the failure at a value that is no such text.
* `DateReader.firstWarning?`: the warning about the first date that was not understood.
* `DateReader.readFrom_texts`, `DateReader.inputsFrom_texts`, `DateReader.inputsFrom_rejected`: the
  two passes over a list.
* `DateReader.readValues_allOrNothing`: the whole.
-/

namespace Playbill

namespace DateReader

/-- Whether a JSON value is a text that is not blank. -/
def isDateText : Json → Bool
  | .string text => !(Text.trim text).isEmpty
  | _ => false

/-- The failure at a value that is none. -/
def rejection (index : Nat) : Json → ExtractionFailure
  | .string _ | .null | .bool false => .blankDate index
  | value => .notDateText index value.compact

/-- The warning about a date that was not understood. -/
def invalidWarning? (c : Context) (index : Nat) : EventDate → Option Warning
  | .invalid raw => some ⟨invalidDateCode,
      "Unparsable date '".toList ++ raw ++ "' at index ".toList ++ Text.ofNat index, c.location⟩
  | .valid _ => none

/-- The warnings about dates from an index on. -/
def warningsFrom (c : Context) (index : Nat) (dates : List EventDate) : List Warning :=
  (dates.zipIdx index).filterMap fun entry => invalidWarning? c entry.2 entry.1

/-- The warning about the first of some dates that was not understood. -/
def firstWarning? (c : Context) (dates : List EventDate) : Option Warning :=
  dates.zipIdx.findSome? fun entry => invalidWarning? c entry.2 entry.1

variable {reader : DateReader} {now : DateTime} {c : Context}

theorem code_of_mem_warningsFrom {index : Nat} {dates : List EventDate} {w : Warning}
    (h : w ∈ warningsFrom c index dates) : w.code = invalidDateCode := by
  obtain ⟨⟨date, i⟩, -, hw⟩ := List.mem_filterMap.1 h
  cases date with
  | valid value => cases hw
  | invalid raw =>
    cases hw
    rfl

theorem warningsFrom_cons (index : Nat) (date : EventDate) (dates : List EventDate) :
    warningsFrom c index (date :: dates) =
      (invalidWarning? c index date).toList ++ warningsFrom c (index + 1) dates := by
  rw [warningsFrom, List.zipIdx_cons, List.filterMap_cons]
  cases invalidWarning? c index date <;> rfl

/-! ### Reading texts -/

theorem warnInvalid_apply (index : Nat) (date : EventDate) (log : WarningLog) :
    warnInvalid c index date log =
      ((), log.recordAll c.lineage (invalidWarning? c index date).toList) := by
  cases date <;> rfl

theorem readFrom_cons_ok {index : Nat} {input : DateSource} {inputs : List DateSource}
    {date : EventDate} (h : reader.readInput now index input = .ok date) (log : WarningLog) :
    readFrom reader now c index (input :: inputs) log =
      let rest := readFrom reader now c (index + 1) inputs (warnInvalid c index date log).2
      (rest.1.map (date :: ·), rest.2) := by
  rw [readFrom, h]
  rfl

theorem readFrom_cons_error {index : Nat} {input : DateSource} {inputs : List DateSource}
    {failure : DateFailure} (h : reader.readInput now index input = .error failure)
    (log : WarningLog) :
    readFrom reader now c index (input :: inputs) log = (.error failure, log) := by
  rw [readFrom, h]
  rfl

section

variable {text : Text} {texts : List Text}

theorem readInput_text (reader : DateReader) (now : DateTime) (h : Text.trim text ≠ [])
    (index : Nat) :
    reader.readInput now index (.raw text) =
      (reader.read now text).elim (.error .outsideCalendar) .ok := by
  rw [readInput, if_neg (mt List.isEmpty_iff.1 h)]
  cases reader.read now text <;> rfl

/-- Every text is read by itself, and the warnings are recorded in order. -/
theorem readFrom_texts (htexts : ∀ t ∈ texts, Text.trim t ≠ []) {dates : List EventDate}
    (hdates : texts.map (reader.read now) = dates.map some) (index : Nat) (log : WarningLog) :
    readFrom reader now c index (texts.map .raw) log =
      (.ok dates, log.recordAll c.lineage (warningsFrom c index dates)) := by
  induction texts generalizing dates index log with
  | nil =>
    obtain rfl := List.map_eq_nil_iff.1 hdates.symm
    rfl
  | cons text texts ih =>
    rw [List.forall_mem_cons] at htexts
    cases dates with
    | nil => cases hdates
    | cons date dates =>
      obtain ⟨hdate, hdates⟩ := List.cons.inj hdates
      have hinput := reader.readInput_text now htexts.1 index
      rw [hdate] at hinput
      rw [List.map_cons, readFrom_cons_ok hinput, ih htexts.2 hdates, warnInvalid_apply,
        warningsFrom_cons, WarningLog.recordAll_append]
      rfl

/-- A text that names a day past the end of the calendar ends the reading. -/
theorem readFrom_outsideCalendar (htexts : ∀ t ∈ texts, Text.trim t ≠ [])
    (hnone : none ∈ texts.map (reader.read now)) (index : Nat) (log : WarningLog) :
    (readFrom reader now c index (texts.map .raw) log).1 = .error .outsideCalendar := by
  induction texts generalizing index log with
  | nil => cases hnone
  | cons text texts ih =>
    rw [List.forall_mem_cons] at htexts
    have hinput := reader.readInput_text now htexts.1 index
    cases hread : reader.read now text with
    | none =>
      rw [hread] at hinput
      rw [List.map_cons, readFrom_cons_error hinput]
    | some date =>
      rw [hread] at hinput
      rw [List.map_cons, hread, List.mem_cons, or_iff_right nofun] at hnone
      rw [List.map_cons, readFrom_cons_ok hinput]
      simp only [ih htexts.2 hnone]
      rfl

theorem exists_read (reader : DateReader) (hnow : (laterDay? now.date 2).isSome) (raw : Text) :
    ∃ date, reader.read now raw = some date := by
  cases hstrict : reader.readStrict? now raw with
  | none =>
    obtain ⟨date, hdate, -⟩ := read_of_noFormat hnow hstrict
    exact ⟨date, hdate⟩
  | some fit =>
    rw [read, hstrict]
    simp only
    split_ifs
    exacts [⟨_, rfl⟩, ⟨_, rfl⟩]

/-- Only in the last two days of the calendar some text cannot be read. -/
theorem laterDay?_eq_none_of_mem (h : none ∈ texts.map (reader.read now)) :
    laterDay? now.date 2 = none := by
  obtain ⟨text, -, hread⟩ := List.mem_map.1 h
  refine Option.not_isSome_iff_eq_none.1 fun hnow => ?_
  obtain ⟨date, hdate⟩ := reader.exists_read hnow text
  rw [hread] at hdate
  cases hdate

/-! ### Values as inputs -/

theorem inputOfValue_text (h : Text.trim text ≠ []) (index : Nat) :
    inputOfValue index (.string text) = .ok (.raw text) :=
  if_neg (mt List.isEmpty_iff.1 h)

theorem inputOfValue_rejected {value : Json} (h : isDateText value = false) (index : Nat) :
    inputOfValue index value = .error (rejection index value) := by
  cases value with
  | string text =>
    rw [isDateText, Bool.not_eq_false'] at h
    exact if_pos h
  | bool b => cases b <;> rfl
  | null | number | array | object => rfl

theorem exists_of_isDateText {value : Json} (h : isDateText value) :
    ∃ text, value = .string text ∧ Text.trim text ≠ [] := by
  cases value with
  | string text => exact ⟨text, rfl, by simpa [isDateText] using h⟩
  | null | bool | number | array | object => cases h

theorem inputsFrom_texts (htexts : ∀ t ∈ texts, Text.trim t ≠ []) (index : Nat) :
    inputsFrom index (texts.map .string) = .ok (texts.map .raw) := by
  induction texts generalizing index with
  | nil => rfl
  | cons text texts ih =>
    rw [List.forall_mem_cons] at htexts
    rw [List.map_cons, inputsFrom, inputOfValue_text htexts.1, ih htexts.2]
    rfl

/-- The first value that is none is the one that is reported. -/
theorem inputsFrom_rejected {before after : List Json} {value : Json}
    (hbefore : ∀ v ∈ before, isDateText v) (hvalue : isDateText value = false) (index : Nat) :
    inputsFrom index (before ++ value :: after) =
      .error (rejection (index + before.length) value) := by
  induction before generalizing index with
  | nil =>
    rw [List.nil_append, inputsFrom, inputOfValue_rejected hvalue]
    rfl
  | cons first before ih =>
    rw [List.forall_mem_cons] at hbefore
    obtain ⟨text, rfl, htext⟩ := exists_of_isDateText hbefore.1
    rw [List.cons_append, inputsFrom, inputOfValue_text htext, ih hbefore.2, List.length_cons,
      Nat.add_assoc, Nat.add_comm 1]
    rfl

end

/-! ### Lists of values -/

theorem exists_texts {values : List Json} (h : ∀ v ∈ values, isDateText v) :
    ∃ texts : List Text, values = texts.map .string ∧ ∀ t ∈ texts, Text.trim t ≠ [] := by
  have hrange : values ∈ Set.range (List.map Json.string) := by
    rw [Set.range_list_map]
    intro v hv
    obtain ⟨text, rfl, -⟩ := exists_of_isDateText (h v hv)
    exact ⟨text, rfl⟩
  obtain ⟨texts, rfl⟩ := hrange
  exact ⟨texts, rfl, fun t ht => by simpa [isDateText] using h _ (List.mem_map_of_mem ht)⟩

theorem exists_dates {texts : List Text} (h : none ∉ texts.map (reader.read now)) :
    ∃ dates : List EventDate, texts.map (reader.read now) = dates.map some := by
  have hrange : texts.map (reader.read now) ∈ Set.range (List.map some) := by
    rw [Set.range_list_map]
    intro date hdate
    exact Option.ne_none_iff_exists.1 fun hnone => h (hnone ▸ hdate)
  obtain ⟨dates, hdates⟩ := hrange
  exact ⟨dates, hdates.symm⟩

/-- **Values are read all or not at all.**  Texts that are not blank are read one by one, as they are
when they are given as texts, with one warning about the first that is no date, unless one of them
names a day past the end of the calendar.  Otherwise the first other value is reported, and no
warning is recorded. -/
theorem readValues_allOrNothing (reader : DateReader) (now : DateTime) (c : Context)
    (values : List Json) (log : WarningLog) (hscopes : ∀ scope ∈ c.lineage, scope < log.length) :
    (∃ texts : List Text, values = texts.map .string ∧ (∀ t ∈ texts, Text.trim t ≠ []) ∧
      reader.readValues now c values = reader.readAll now c (texts.map .raw) ∧
      ((∃ dates after, reader.readValues now c values log = (.ok dates, after) ∧
          texts.map (reader.read now) = dates.map some ∧
          WarningLog.Gains c.lineage invalidDateCode (firstWarning? c dates) log after) ∨
        (reader.readValues now c values log).1 = .error .outsideCalendar ∧
          none ∈ texts.map (reader.read now) ∧ laterDay? now.date 2 = none)) ∨
    ∃ before value after, values = before ++ value :: after ∧ (∀ v ∈ before, isDateText v) ∧
      isDateText value = false ∧
      reader.readValues now c values log = (.error (.rejected (rejection before.length value)), log) := by
  cases hfind : values.find? fun value => !isDateText value with
  | none =>
    have htext : ∀ v ∈ values, isDateText v := by simpa using List.find?_eq_none.1 hfind
    obtain ⟨texts, rfl, htexts⟩ := exists_texts htext
    have hsame : reader.readValues now c (texts.map .string) =
        reader.readAll now c (texts.map .raw) := by
      rw [readValues, inputsFrom_texts htexts]
    refine .inl ⟨texts, rfl, htexts, hsame, ?_⟩
    rw [hsame]
    by_cases hnone : none ∈ texts.map (reader.read now)
    · exact .inr
        ⟨readFrom_outsideCalendar htexts hnone 0 log, hnone, laterDay?_eq_none_of_mem hnone⟩
    · obtain ⟨dates, hdates⟩ := exists_dates hnone
      have hcode : ∀ w ∈ warningsFrom c 0 dates, w.code = invalidDateCode :=
        fun w hw => code_of_mem_warningsFrom hw
      have hgains := WarningLog.gains_recordAll hcode hscopes
      rw [warningsFrom, List.head?_filterMap] at hgains
      exact .inl ⟨dates, _, readFrom_texts htexts hdates 0 log, hdates, hgains⟩
  | some value =>
    obtain ⟨hvalue, before, after, rfl, hbefore⟩ := List.find?_eq_some_iff_append.1 hfind
    have hvalue : isDateText value = false := by simpa using hvalue
    have hbefore : ∀ v ∈ before, isDateText v := by simpa using hbefore
    refine .inr ⟨before, value, after, rfl, hbefore, hvalue, ?_⟩
    rw [readValues, inputsFrom_rejected hbefore hvalue, Nat.zero_add]
    rfl

/-- What stands for no text is reported although a later value is of another kind. -/
theorem readValues_allOrNothing_null :
    (∀ scope ∈ [1, 0], scope < [[], ([] : List Warning)].length) ∧
      dayMonths.readValues leapDayStart { lineage := [1, 0] }
          [.string "heute", .null, .number (.int 42)] [[], []] =
        (.error (.rejected (.blankDate 1)), [[], []]) := by
  have hscopes : ∀ scope ∈ [1, 0], scope < [[], ([] : List Warning)].length := by decide
  refine ⟨hscopes, ?_⟩
  rcases readValues_allOrNothing dayMonths leapDayStart { lineage := [1, 0] }
      [.string "heute", .null, .number (.int 42)] [[], []] hscopes with
    ⟨texts, htexts, -⟩ | ⟨before, value, after, hvalues, hbefore, hvalue, hread⟩
  · rcases texts with _ | ⟨first, _ | ⟨second, texts⟩⟩ <;> cases htexts
  · rcases before with _ | ⟨first, _ | ⟨second, before⟩⟩
    · cases hvalues
      cases hvalue
    · cases hvalues
      exact hread
    · obtain ⟨-, hvalues⟩ := List.cons.inj hvalues
      obtain ⟨rfl, -⟩ := List.cons.inj hvalues
      cases hbefore .null (List.mem_cons_of_mem _ List.mem_cons_self)

/-- On the last day of the calendar there is no day after tomorrow. -/
theorem readValues_lastDay :
    isDateText (.string "day after tomorrow") ∧
      (dayMonths.readValues ⟨⟨262142, 12, 31, by decide, by decide, by decide⟩, Time.midnight⟩
        { lineage := [0] } [.string "day after tomorrow"] [[]]).1 = .error .outsideCalendar := by
  have hstrict : dayMonths.readStrict?
      ⟨⟨262142, 12, 31, by decide, by decide, by decide⟩, Time.midnight⟩ "day after tomorrow" =
        none :=
    dayMonths_readStrict?_cons (by decide) (by decide)
  have hread : dayMonths.read ⟨⟨262142, 12, 31, by decide, by decide, by decide⟩, Time.midnight⟩
      "day after tomorrow" = none := by
    rw [read, hstrict, relativeDays?_dayAfterTomorrow]
    rfl
  have htexts : ∀ t ∈ ["day after tomorrow".toList], Text.trim t ≠ [] := by
    rw [List.forall_mem_singleton]
    decide
  have hnone := readFrom_outsideCalendar (c := { lineage := [0] }) htexts
    (List.mem_singleton.2 hread.symm) 0 [[]]
  refine ⟨rfl, ?_⟩
  rw [readValues, show [Json.string "day after tomorrow"] =
    ["day after tomorrow".toList].map Json.string from rfl, inputsFrom_texts htexts]
  exact hnone

end DateReader

end Playbill
