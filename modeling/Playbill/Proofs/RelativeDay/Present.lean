import Playbill.Proofs.DatePattern.RoundTrip
import Playbill.Proofs.RelativeDay.NearestYear

/-!
# What a date takes from the present

A format with a year and a month reads a text alike at any time; a format without a year gives the
date the year of the present.

* `DatePattern.readToken?_isSome`, `readParts?_isSome`: the tokens that are read set the year and
  the month, and no others do.
* `DatePattern.IsComplete`: a format with a year and a month; `IsComplete.parse?_eq`: the present
  does not matter to it.
* `DateReader.readStrict?_of_isComplete`: nor to a reader of such formats.
* `DateReader.read_atAnyTime`: the same for whole texts, and the dual for formats without a year.
-/

namespace Playbill

namespace DateToken

/-- A token of a year. -/
def givesYear : DateToken → Bool
  | year4 | year2 => true
  | _ => false

/-- A token of a month, in digits or in words. -/
def givesMonth : DateToken → Bool
  | month2 | month | monthName | monthShort => true
  | _ => false

end DateToken

/-- With a year and a month nothing of a date is missing that the present would give. -/
theorem DateFields.resolve?_of_isSome {fields : DateFields} (hyear : fields.year.isSome)
    (hmonth : fields.month.isSome) (now now' : DateTime) :
    fields.resolve? now = fields.resolve? now' := by
  obtain ⟨year, hyear⟩ := Option.isSome_iff_exists.1 hyear
  obtain ⟨month, hmonth⟩ := Option.isSome_iff_exists.1 hmonth
  simp [resolve?, hyear, hmonth]

namespace DatePattern

variable {locale : Locale} {format : DatePattern} {fields fields' : DateFields} {t rest raw : Text}

/-! ### The units that are read -/

/-- A token that is read sets its own unit and leaves the others. -/
theorem readToken?_isSome {token : DateToken} {next : Option Char}
    (h : readToken? locale token next fields t = some (fields', rest)) :
    fields'.year.isSome = (fields.year.isSome || token.givesYear) ∧
      fields'.month.isSome = (fields.month.isSome || token.givesMonth) := by
  cases token
  case weekdayName | weekdayShort | weekdayMin =>
    simp only [readToken?] at h
    split_ifs at h
    cases h
    simp [DateToken.givesYear, DateToken.givesMonth]
  all_goals
    obtain ⟨read, -, hread⟩ := Option.map_eq_some_iff.1 h
    cases hread
    simp [DateToken.givesYear, DateToken.givesMonth]

/-- After all parts the year and the month are set that were set before or are among the tokens. -/
theorem readParts?_isSome {parts : List FormatPart}
    (h : readParts? locale parts fields t = some (fields', rest)) :
    fields'.year.isSome = (fields.year.isSome || (tokens parts).any (·.givesYear)) ∧
      fields'.month.isSome = (fields.month.isSome || (tokens parts).any (·.givesMonth)) := by
  induction parts generalizing fields t with
  | nil =>
    cases h
    simp [tokens]
  | cons part parts ih =>
    cases part with
    | literal literal =>
      obtain ⟨t', -, hrest⟩ := Option.bind_eq_some_iff.1 h
      exact ih hrest
    | token token =>
      obtain ⟨⟨fields₁, t'⟩, htoken, hrest⟩ := Option.bind_eq_some_iff.1 h
      obtain ⟨hyear, hmonth⟩ := readToken?_isSome htoken
      obtain ⟨hyear', hmonth'⟩ := ih hrest
      have htokens : tokens (.token token :: parts) = token :: tokens parts := rfl
      rw [hyear', hmonth', hyear, hmonth, htokens]
      simp [Bool.or_assoc]

/-! ### Complete formats -/

/-- A format with a year and a month. -/
structure IsComplete (format : DatePattern) : Prop where
  year : ∃ token ∈ tokens format.parts, token.givesYear
  month : ∃ token ∈ tokens format.parts, token.givesMonth

theorem namesYear_iff : format.namesYear ↔ ∃ token ∈ tokens format.parts, token.givesYear := by
  rw [namesYear, List.any_eq_true]
  constructor
  · rintro ⟨part, hpart, hyear⟩
    rcases Bool.or_eq_true_iff.1 hyear with h | h
    · exact ⟨.year4, mem_tokens_iff.2 (eq_of_beq h ▸ hpart), rfl⟩
    · exact ⟨.year2, mem_tokens_iff.2 (eq_of_beq h ▸ hpart), rfl⟩
  · rintro ⟨token, htoken, hyear⟩
    refine ⟨.token token, mem_tokens_iff.1 htoken, ?_⟩
    cases token <;> simp_all [DateToken.givesYear]

/-- A complete format reads a text alike at any time. -/
theorem IsComplete.parse?_eq (h : format.IsComplete) (locale : Locale) (raw : Text)
    (now now' : DateTime) : format.parse? locale now raw = format.parse? locale now' raw := by
  unfold parse?
  cases hread : readParts? locale format.parts {} raw with
  | none => rfl
  | some found =>
    obtain ⟨fields, rest⟩ := found
    obtain ⟨hyear, hmonth⟩ := readParts?_isSome hread
    rw [List.any_eq_true.2 h.year, Bool.or_true] at hyear
    rw [List.any_eq_true.2 h.month, Bool.or_true] at hmonth
    simp only
    rw [DateFields.resolve?_of_isSome hyear hmonth now now']

end DatePattern

namespace DateReader

variable {reader : DateReader} {raw : Text}

/-- A reader of complete formats finds the same format and value at any time. -/
theorem readStrict?_of_isComplete (h : ∀ format ∈ reader.formats, format.IsComplete)
    (raw : Text) (now now' : DateTime) :
    reader.readStrict? now raw = reader.readStrict? now' raw := by
  have hparse : ∀ format ∈ reader.formats,
      format.parse? reader.locale now raw = format.parse? reader.locale now' raw :=
    fun format hformat => (h format hformat).parse?_eq reader.locale raw now now'
  unfold readStrict?
  generalize reader.formats = formats at hparse
  induction formats with
  | nil => rfl
  | cons format formats ih =>
    rw [List.forall_mem_cons] at hparse
    rw [List.findSome?_cons, List.findSome?_cons, hparse.1, ih hparse.2]

/-- A date with a year in its format is what the format gives. -/
theorem read_of_readStrict? {now : DateTime} {format : DatePattern} {value : DateTime}
    (h : reader.readStrict? now raw = some (format, value)) (hyear : format.namesYear) :
    reader.read now raw = some (.valid value) := by
  simp [read, h, hyear]

/-- **Dates and the present.**  A format with a year and a month reads a text alike at any time; a
reader of such formats gives a text that one of them fits the same date at any time, the one of the
first that it fits; and a format without a year gives a date the year of the present. -/
theorem read_atAnyTime :
    (∀ (format : DatePattern) (locale : Locale) (raw : Text) (now now' : DateTime),
      format.IsComplete → format.parse? locale now raw = format.parse? locale now' raw) ∧
    (∀ (reader : DateReader) (raw : Text), (∀ format ∈ reader.formats, format.IsComplete) →
      (∃ format ∈ reader.formats, ∃ now v, format.parse? reader.locale now raw = some v) →
        ∃ format v, ∀ now, reader.FirstFit now raw format v ∧
          reader.read now raw = some (.valid v)) ∧
    ∀ (format : DatePattern) (locale : Locale) (raw : Text) (now v : DateTime),
      format.namesYear = false → format.parse? locale now raw = some v →
        v.date.year = now.date.year := by
  refine ⟨fun format locale raw now now' h => h.parse?_eq locale raw now now', ?_,
    fun format locale raw now v => DatePattern.parse?_year⟩
  rintro reader raw hcomplete ⟨fitting, hfitting, now, v, hv⟩
  -- Some format fits, so there is a first one, and it is the same at any time.
  have hsome : (reader.readStrict? now raw).isSome := by
    rw [readStrict?, List.findSome?_isSome_iff]
    exact ⟨fitting, hfitting, by simp [hv]⟩
  obtain ⟨⟨format, value⟩, hstrict⟩ := Option.isSome_iff_exists.1 hsome
  refine ⟨format, value, fun now' => ?_⟩
  rw [readStrict?_of_isComplete hcomplete raw now now'] at hstrict
  have hfit := readStrict?_eq_some_iff.1 hstrict
  refine ⟨hfit, read_of_readStrict? hstrict ?_⟩
  obtain ⟨before, after, hformats, -, -⟩ := id hfit
  exact DatePattern.namesYear_iff.2 (hcomplete format (by simp [hformats])).year

/-- A reader of days and of months, both with their year. -/
def monthsWithYear : DateReader :=
  ⟨[DatePattern.ofText "DD.MM.YYYY", DatePattern.ofText "MM/YYYY"], Locale.english, false⟩

/-- Noon of 15 November in the year of `pastAprilNoon`. -/
def autumnNoon : DateTime :=
  ⟨{ pastAprilNoon.date with
      month := 11, day := 15, month_mem := by decide, day_mem := by decide }, Time.noon⟩

/-- The start of 5 January of that year. -/
def januaryStart : DateTime :=
  ⟨{ pastAprilNoon.date with
      month := 1, day := 5, month_mem := by decide, day_mem := by decide }, Time.midnight⟩

/-- The start of September 2033. -/
def septemberStart : DateTime :=
  ⟨⟨2033, 9, 1, by decide, by decide, by decide⟩, Time.midnight⟩

theorem parts_monthYear : (DatePattern.ofText "MM/YYYY").parts =
    [.token .month2, .literal ['/'], .token .year4] := by
  cbv

theorem isComplete_monthsWithYear :
    ∀ format ∈ monthsWithYear.formats, format.IsComplete := by
  have hdays : (DatePattern.ofText "DD.MM.YYYY").IsComplete := by
    constructor <;> rw [parts_dayMonthYear] <;> decide
  have hmonths : (DatePattern.ofText "MM/YYYY").IsComplete := by
    constructor <;> rw [parts_monthYear] <;> decide
  exact List.forall_mem_cons.2 ⟨hdays, List.forall_mem_singleton.2 hmonths⟩

theorem parse?_monthYear : (DatePattern.ofText "MM/YYYY").parse? Locale.english autumnNoon
    "09/2033" = some septemberStart := by
  rw [DatePattern.parse?, parts_monthYear]
  decide

theorem parse?_january : (DatePattern.ofText "DD.MM.").parse? Locale.english autumnNoon "05.01." =
    some januaryStart := by
  rw [DatePattern.parse?, parts_dayMonth]
  decide

/-- A month is read alike at any time, and a day without a year in the year of the present. -/
theorem read_atAnyTime_september :
    ((∀ format ∈ monthsWithYear.formats, format.IsComplete) ∧
      (∃ format ∈ monthsWithYear.formats, ∃ now v,
        format.parse? monthsWithYear.locale now "09/2033" = some v) ∧
      ∃ format v, ∀ now, monthsWithYear.FirstFit now "09/2033" format v ∧
        monthsWithYear.read now "09/2033" = some (.valid v)) ∧
    ((DatePattern.ofText "MM/YYYY").IsComplete ∧
      ∀ now, (DatePattern.ofText "MM/YYYY").parse? Locale.english now "09/2033" =
        some septemberStart) ∧
    (DatePattern.ofText "DD.MM.").namesYear = false ∧
      (DatePattern.ofText "DD.MM.").parse? Locale.english autumnNoon "05.01." =
        some januaryStart ∧
      januaryStart.date.year = autumnNoon.date.year := by
  obtain ⟨hformat, hreader, hdual⟩ := read_atAnyTime
  have hfits : ∃ format ∈ monthsWithYear.formats, ∃ now v,
      format.parse? monthsWithYear.locale now "09/2033" = some v :=
    ⟨_, by simp [monthsWithYear], autumnNoon, septemberStart, parse?_monthYear⟩
  have hmonth : (DatePattern.ofText "MM/YYYY").IsComplete :=
    isComplete_monthsWithYear _ (by simp [monthsWithYear])
  have hyear : (DatePattern.ofText "DD.MM.").namesYear = false := by
    rw [DatePattern.namesYear, parts_dayMonth]
    decide
  refine ⟨⟨isComplete_monthsWithYear, hfits, hreader _ _ isComplete_monthsWithYear hfits⟩,
    ⟨hmonth, fun now => ?_⟩, hyear, parse?_january, hdual _ _ _ _ _ hyear parse?_january⟩
  rw [hformat _ _ _ now autumnNoon hmonth, parse?_monthYear]

end DateReader

end Playbill
