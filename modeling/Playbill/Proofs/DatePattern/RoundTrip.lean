import Playbill.DatePattern.Printer
import Playbill.DatePattern.Reader
import Playbill.Proofs.Calendar.Days
import Playbill.Proofs.Text.Basic

/-!
# Reading back written dates

A date written in digits is read back by the format that wrote it.

* `DateUnit`, `DateToken.unit?`: the units that are written in digits, and the halves of the day.
* `DatePattern.ReadsBack`: the conditions under which a format reads back what it writes.
* `readLiteral?_text`, `readToken?_unitText`: one part reads its own text and leaves the rest.
* `readParts?_render`: so do all parts in order; blanks may be lost between them.
* `parse?_render_digits`: the date and the units that the format has come back.
-/

namespace Playbill

/-- The units that are written in digits, and the halves of the day. -/
inductive DateUnit
  | year
  | month
  | day
  | hour
  | minute
  | second
  | half
  deriving DecidableEq

/-- The unit of a token, unless it is written with names or ordinals. -/
def DateToken.unit? : DateToken → Option DateUnit
  | year4 | year2 => some .year
  | month2 | month => some .month
  | day2 | day => some .day
  | hour24Padded | hour24 | hour12Padded | hour12 => some .hour
  | minutePadded | minute => some .minute
  | secondPadded | second => some .second
  | meridiemUpper | meridiemLower => some .half
  | monthName | monthShort | dayOrdinal | weekdayName | weekdayShort | weekdayMin => none

/-- A token is written in one digit or two, so that a digit after it would be read with it. -/
def DateToken.isOpen : DateToken → Bool
  | month | day | hour24 | hour12 | minute | second => true
  | _ => false

namespace DatePattern

/-! ### Formats that read back -/

/-- The tokens of some parts in order. -/
def tokens (parts : List FormatPart) : List DateToken :=
  parts.filterMap fun part =>
    match part with
    | .token token => some token
    | .literal _ => none

theorem mem_tokens_iff {token : DateToken} {parts : List FormatPart} :
    token ∈ tokens parts ↔ .token token ∈ parts := by
  unfold tokens
  rw [List.mem_filterMap]
  constructor
  · rintro ⟨part, hpart, heq⟩
    cases part with
    | token other =>
      cases heq
      exact hpart
    | literal text => cases heq
  · exact fun h => ⟨_, h, rfl⟩

theorem mem_tokens_of_suffix {token : DateToken} {after parts : List FormatPart}
    (h : .token token :: after <:+ parts) : token ∈ tokens parts :=
  mem_tokens_iff.2 (h.subset List.mem_cons_self)

theorem tokens_subset_of_suffix {after parts : List FormatPart} (h : after <:+ parts) :
    tokens after ⊆ tokens parts :=
  fun _ htoken => mem_tokens_iff.2 (h.subset (mem_tokens_iff.1 htoken))

/-- Whether a unit is written. -/
def hasUnit (parts : List FormatPart) (unit : DateUnit) : Bool :=
  (tokens parts).any fun token => token.unit? = some unit

/-- The last token of a unit. -/
def lastOf? (unit : DateUnit) (ts : List DateToken) : Option DateToken :=
  (ts.filter fun token => token.unit? = some unit).getLast?

/-- The text of some parts of a format. -/
def partsText (locale : Locale) (v : DateTime) (parts : List FormatPart) : Text :=
  parts.flatMap (partText locale v)

/-- A format reads back what it writes: it is written in digits, with a full date; its last year
shows the century, or leaves the one that is understood; a half of the day goes with an hour, and an
hour on a twelve-hour clock with its half; and no digit follows a number of one or two digits. -/
structure ReadsBack (locale : Locale) (v : DateTime) (parts : List FormatPart) : Prop where
  digits : ∀ token ∈ tokens parts, token.unit?.isSome
  year : lastOf? .year (tokens parts) = some .year4 ∧ 0 ≤ v.date.year ∧ v.date.year ≤ 9999 ∨
    lastOf? .year (tokens parts) = some .year2 ∧ 1969 ≤ v.date.year ∧ v.date.year ≤ 2068
  month : hasUnit parts .month
  day : hasUnit parts .day
  hour_of_half : hasUnit parts .half → hasUnit parts .hour
  half_of_hour : lastOf? .hour (tokens parts) = some .hour12Padded ∨
    lastOf? .hour (tokens parts) = some .hour12 → hasUnit parts .half
  no_digit : ∀ token after, .token token :: after <:+ parts → token.isOpen →
    ¬ (partsText locale v after).head?.any isAsciiDigit

/-! ### Literals -/

/-- A literal reads its own text, whatever became of the blanks before it. -/
theorem readLiteral?_text (literal rest : Text) {t : Text}
    (h : Text.trimStart t = Text.trimStart (literal ++ rest)) :
    ∃ t', readLiteral? literal t = some t' ∧ Text.trimStart t' = Text.trimStart rest := by
  induction literal generalizing t with
  | nil => exact ⟨t, rfl, h⟩
  | cons c literal ih =>
    rw [List.cons_append] at h
    cases hc : isBlank c with
    | true =>
      rw [Text.trimStart_cons_blank hc, ← Text.trimStart_trimStart t] at h
      obtain ⟨t', hread, hrest⟩ := ih h
      exact ⟨t', by simpa [readLiteral?, hc] using hread, hrest⟩
    | false =>
      rw [Text.trimStart_cons_of_not_blank hc] at h
      obtain ⟨t', hread, hrest⟩ := ih (t := literal ++ rest) rfl
      exact ⟨t', by simpa [readLiteral?, hc, h] using hread, hrest⟩

/-! ### Tokens -/

/-- A number that ends in its last digit or before another character is read as it is written. -/
theorem number?_append {width : Nat} {digits rest : Text} (hd : ∀ c ∈ digits, isAsciiDigit c)
    (hne : digits ≠ []) (hle : digits.length ≤ width)
    (hrest : digits.length = width ∨ ¬ rest.head?.any isAsciiDigit) :
    number? width (digits ++ rest) = some (Text.natOfDigits digits, digits.length, rest) := by
  -- The run ends at the full width, or else at the character that follows.
  have hstop : (rest.take (width - digits.length)).takeWhile isAsciiDigit = [] := by
    rcases hrest with hlen | hhead
    · simp [hlen]
    · cases rest with
      | nil => simp
      | cons c rest =>
        have hc : isAsciiDigit c = false := by simpa using hhead
        cases width - digits.length <;> simp [hc]
  have hrun : ((digits ++ rest).take width).takeWhile isAsciiDigit = digits := by
    rw [List.take_append, List.take_of_length_le hle, List.takeWhile_append_of_pos hd, hstop,
      List.append_nil]
  simp [number?, hrun, hne]

/-- The marks of the halves of the day as they are written. -/
def halfText (upper afternoon : Bool) : Text :=
  [if upper then if afternoon then 'P' else 'A' else if afternoon then 'p' else 'a',
    if upper then 'M' else 'm']

theorem lower_halfText_append (upper afternoon : Bool) (t : Text) :
    Text.lower (halfText upper afternoon ++ t) =
      (if afternoon then 'p' else 'a') :: 'm' :: Text.lowerAfter (halfText upper afternoon).reverse t := by
  have hlower : lowerChar 'A' = ['a'] ∧ lowerChar 'P' = ['p'] ∧ lowerChar 'M' = ['m'] ∧
      lowerChar 'a' = ['a'] ∧ lowerChar 'p' = ['p'] ∧ lowerChar 'm' = ['m'] := by decide
  cases upper <;> cases afternoon <;> simp [halfText, Text.lower, Text.lowerAfter, hlower]

theorem takeBytes?_halfText (upper afternoon : Bool) (n : Nat) (t : Text) :
    Text.takeBytes? (n + 2) (halfText upper afternoon ++ t) =
      (Text.takeBytes? n t).map fun cut => (halfText upper afternoon ++ cut.1, cut.2) := by
  have hsize : 'A'.utf8Size = 1 ∧ 'P'.utf8Size = 1 ∧ 'M'.utf8Size = 1 ∧ 'a'.utf8Size = 1 ∧
      'p'.utf8Size = 1 ∧ 'm'.utf8Size = 1 := by decide
  cases upper <;> cases afternoon <;>
    simp [halfText, Text.takeBytes?, hsize, Option.map_map, Function.comp_def]

theorem dropIgnoringCase?_halfText (upper afternoon other : Bool) (t : Text) :
    dropIgnoringCase? (halfText false other) (halfText upper afternoon ++ t) =
      if afternoon = other then some t else none := by
  have hlen : Text.utf8Length (halfText false other) = 0 + 2 := by cases other <;> decide
  have hlower (upper afternoon : Bool) : Text.lower (halfText upper afternoon) =
      [if afternoon then 'p' else 'a', 'm'] := by
    simpa [Text.lowerAfter] using lower_halfText_append upper afternoon []
  rw [dropIgnoringCase?, hlen, takeBytes?_halfText]
  cases afternoon <;> cases other <;> simp [Text.takeBytes?, hlower]

/-- A mark with dots differs from the written ones at its second character. -/
theorem dropIgnoringCase?_dotted (upper afternoon other : Bool) (t : Text) :
    dropIgnoringCase? [if other then 'p' else 'a', '.', 'm', '.']
      (halfText upper afternoon ++ t) = none := by
  have hlen : Text.utf8Length [if other then 'p' else 'a', '.', 'm', '.'] = 2 + 2 := by
    cases other <;> decide
  have hlower : Text.lower [if other then 'p' else 'a', '.', 'm', '.'] =
      [if other then 'p' else 'a', '.', 'm', '.'] := by
    cases other <;> decide
  rw [dropIgnoringCase?, hlen, takeBytes?_halfText, hlower]
  cases Text.takeBytes? 2 t <;> simp [lower_halfText_append]

theorem readMeridiem?_halfText (upper afternoon : Bool) (t : Text) :
    readMeridiem? (halfText upper afternoon ++ t) = some (afternoon, t) := by
  have ha : dropIgnoringCase? ['a', '.', 'm', '.'] (halfText upper afternoon ++ t) = none :=
    dropIgnoringCase?_dotted upper afternoon false t
  have hp : dropIgnoringCase? ['p', '.', 'm', '.'] (halfText upper afternoon ++ t) = none :=
    dropIgnoringCase?_dotted upper afternoon true t
  have ham : dropIgnoringCase? ['a', 'm'] (halfText upper afternoon ++ t) = _ :=
    dropIgnoringCase?_halfText upper afternoon false t
  have hpm : dropIgnoringCase? ['p', 'm'] (halfText upper afternoon ++ t) = _ :=
    dropIgnoringCase?_halfText upper afternoon true t
  cases afternoon <;> simp [readMeridiem?, ha, hp, ham, hpm]

/-- The fields after a token has been read from its own text. -/
def record (v : DateTime) (fields : DateFields) : DateToken → DateFields
  | .year4 => { fields with year := some v.date.year }
  | .year2 => { fields with year := some (shortYear (v.date.year % 100).toNat) }
  | .month2 | .month => { fields with month := some v.date.month }
  | .day2 | .day => { fields with day := some v.date.day }
  | .hour24Padded | .hour24 => { fields with hour := some v.time.hour }
  | .hour12Padded | .hour12 => { fields with hour := some (hour12 v.time.hour) }
  | .minutePadded | .minute => { fields with minute := some v.time.minute }
  | .secondPadded | .second => { fields with second := some v.time.second }
  | .meridiemUpper | .meridiemLower => { fields with afternoon := some (12 ≤ v.time.hour) }
  | _ => fields

theorem hour12_lt {hour : Nat} : hour12 hour < 100 := by
  unfold hour12
  split <;> omega

theorem number?_padded {width n : Nat} (hw : 0 < width) (hn : n < 10 ^ width) (rest : Text) :
    number? width (Text.padded width n ++ rest) = some (n, width, rest) := by
  have hlen := Text.length_padded hw hn
  rw [number?_append (fun _ hc => Text.isAsciiDigit_of_mem_padded hc) (Text.padded_ne_nil _ _)
    hlen.le (.inl hlen), Text.natOfDigits_padded, hlen]

theorem number?_ofNat {width n : Nat} (hw : 0 < width) (hn : n < 10 ^ width) {rest : Text}
    (hrest : ¬ rest.head?.any isAsciiDigit) :
    number? width (Text.ofNat n ++ rest) = some (n, (Text.ofNat n).length, rest) := by
  rw [number?_append (fun _ hc => Text.isAsciiDigit_of_mem_ofNat hc) (Text.ofNat_ne_nil _)
    (Text.length_ofNat_le hw hn) (.inr hrest), Text.natOfDigits_ofNat]

theorem unitText_year4 (locale : Locale) {v : DateTime} (hyear : 0 ≤ v.date.year) :
    unitText locale v .year4 = Text.padded 4 v.date.year.toNat := by
  obtain ⟨y, hy⟩ := Int.eq_ofNat_of_zero_le hyear
  rw [unitText, hy]
  rfl

theorem unitText_meridiemUpper (locale : Locale) (v : DateTime) :
    unitText locale v .meridiemUpper = halfText true (12 ≤ v.time.hour) := by
  by_cases h : v.time.hour < 12 <;> simp [unitText, halfText, h, Nat.not_le.2, Nat.not_lt.1]

theorem unitText_meridiemLower (locale : Locale) (v : DateTime) :
    unitText locale v .meridiemLower = halfText false (12 ≤ v.time.hour) := by
  by_cases h : v.time.hour < 12 <;> simp [unitText, halfText, h, Nat.not_le.2, Nat.not_lt.1]

/-- A token that is written in digits reads its own text. -/
theorem readToken?_unitText {locale : Locale} {v : DateTime} {token : DateToken}
    (htoken : token.unit?.isSome)
    (hyear : token = .year4 → 0 ≤ v.date.year ∧ v.date.year ≤ 9999) {rest : Text}
    (hrest : token.isOpen → ¬ rest.head?.any isAsciiDigit) (next : Option Char)
    (fields : DateFields) :
    readToken? locale token next fields (unitText locale v token ++ rest) =
      some (record v fields token, rest) := by
  have hmonth := v.date.month_mem
  have hday := v.date.day_le
  have hhour := v.time.hour_lt
  have hhour12 : hour12 v.time.hour < 100 := hour12_lt
  have hminute := v.time.minute_lt
  have hsecond := v.time.second_lt
  cases token
  case year4 =>
    obtain ⟨hlow, hhigh⟩ := hyear rfl
    rw [readToken?, unitText_year4 locale hlow, number?_padded (by decide) (by omega)]
    simp [record, hlow]
  case year2 | month2 | day2 | hour24Padded | hour12Padded | minutePadded | secondPadded =>
    rw [readToken?, unitText, number?_padded (by decide) (by omega)]
    rfl
  case month | day | hour24 | hour12 | minute | second =>
    rw [readToken?, unitText, number?_ofNat (by decide) (by omega) (hrest rfl)]
    rfl
  case meridiemUpper =>
    rw [readToken?, unitText_meridiemUpper, readMeridiem?_halfText]
    rfl
  case meridiemLower =>
    rw [readToken?, unitText_meridiemLower, readMeridiem?_halfText]
    rfl
  all_goals cases htoken

theorem trimStart_digits_append {digits : Text} (hd : ∀ c ∈ digits, isAsciiDigit c)
    (hne : digits ≠ []) (rest : Text) : Text.trimStart (digits ++ rest) = digits ++ rest := by
  obtain ⟨c, cs, rfl⟩ := List.exists_cons_of_ne_nil hne
  exact Text.trimStart_cons_of_not_blank (Text.isBlank_of_isAsciiDigit (hd c List.mem_cons_self)) _

/-- What a token writes in digits starts with no blank. -/
theorem trimStart_unitText_append (locale : Locale) {v : DateTime} {token : DateToken}
    (htoken : token.unit?.isSome) (hyear : token = .year4 → 0 ≤ v.date.year) (rest : Text) :
    Text.trimStart (unitText locale v token ++ rest) = unitText locale v token ++ rest := by
  have hpadded (width n : Nat) := trimStart_digits_append
    (fun _ hc => Text.isAsciiDigit_of_mem_padded hc) (Text.padded_ne_nil width n) rest
  have hofNat (n : Nat) := trimStart_digits_append
    (fun _ hc => Text.isAsciiDigit_of_mem_ofNat hc) (Text.ofNat_ne_nil n) rest
  have hhalf (upper afternoon : Bool) : Text.trimStart (halfText upper afternoon ++ rest) =
      halfText upper afternoon ++ rest := by
    cases upper <;> cases afternoon <;> exact Text.trimStart_cons_of_not_blank (by decide) _
  cases token
  case year4 => rw [unitText_year4 locale (hyear rfl), hpadded]
  case year2 | month2 | day2 | hour24Padded | hour12Padded | minutePadded | secondPadded =>
    exact hpadded _ _
  case month | day | hour24 | hour12 | minute | second => exact hofNat _
  case meridiemUpper => rw [unitText_meridiemUpper, hhalf]
  case meridiemLower => rw [unitText_meridiemLower, hhalf]
  all_goals cases htoken

/-! ### Parts -/

/-- The parts before some others read in order what they write, whatever became of the blanks
between them, and record every token. -/
theorem readParts?_append {locale : Locale} {write : FormatPart → Text}
    (hliteral : ∀ text, write (.literal text) = text)
    {record : DateFields → DateToken → DateFields} {parts : List FormatPart}
    (later : List FormatPart)
    (hstart : ∀ token ∈ tokens parts, ∀ t,
      Text.trimStart (write (.token token) ++ t) = write (.token token) ++ t)
    (hread : ∀ token after, .token token :: after <:+ parts → ∀ fields,
      readToken? locale token (nextLiteral (after ++ later)) fields
        (write (.token token) ++ (after ++ later).flatMap write) =
          some (record fields token, (after ++ later).flatMap write))
    (fields : DateFields) {t : Text}
    (h : Text.trimStart t = Text.trimStart ((parts ++ later).flatMap write)) :
    ∃ rest, readParts? locale (parts ++ later) fields t =
        readParts? locale later ((tokens parts).foldl record fields) rest ∧
      Text.trimStart rest = Text.trimStart (later.flatMap write) := by
  induction parts generalizing fields t with
  | nil => exact ⟨t, rfl, h⟩
  | cons part parts ih =>
    have hread' (token : DateToken) (after : List FormatPart)
        (hsuffix : .token token :: after <:+ parts) :=
      hread token after (hsuffix.trans (List.suffix_cons part parts))
    rw [List.cons_append, List.flatMap_cons] at h
    cases part with
    | literal text =>
      -- A literal that ends in blanks passes over those after it too, so that what is left agrees
      -- with the text of the later parts up to leading blanks only.
      rw [hliteral] at h
      obtain ⟨t', hliteral', hrest⟩ := readLiteral?_text text _ h
      obtain ⟨rest, hparts, hblank⟩ := ih hstart hread' fields hrest
      exact ⟨rest, by rw [List.cons_append, readParts?, hliteral']; exact hparts, hblank⟩
    | token token =>
      obtain ⟨htoken, hstart'⟩ := List.forall_mem_cons.1 hstart
      obtain ⟨rest, hparts, hblank⟩ := ih hstart' hread' (record fields token) rfl
      refine ⟨rest, ?_, hblank⟩
      rw [List.cons_append, readParts?, h.trans (htoken _),
        hread token parts List.suffix_rfl fields]
      exact hparts

/-- All parts of a format read in order what they write, and leave nothing but blanks. -/
theorem readParts?_write {locale : Locale} {write : FormatPart → Text}
    (hliteral : ∀ text, write (.literal text) = text)
    {record : DateFields → DateToken → DateFields} {parts : List FormatPart}
    (hstart : ∀ token ∈ tokens parts, ∀ t,
      Text.trimStart (write (.token token) ++ t) = write (.token token) ++ t)
    (hread : ∀ token after, .token token :: after <:+ parts → ∀ fields,
      readToken? locale token (nextLiteral after) fields
        (write (.token token) ++ after.flatMap write) =
          some (record fields token, after.flatMap write))
    (fields : DateFields) {t : Text}
    (h : Text.trimStart t = Text.trimStart (parts.flatMap write)) :
    ∃ rest, readParts? locale parts fields t = some ((tokens parts).foldl record fields, rest) ∧
      Text.trimStart rest = [] := by
  have hread' (token : DateToken) (after : List FormatPart)
      (hsuffix : .token token :: after <:+ parts) (fields : DateFields) :
      readToken? locale token (nextLiteral (after ++ [])) fields
        (write (.token token) ++ (after ++ []).flatMap write) =
          some (record fields token, (after ++ []).flatMap write) := by
    rw [List.append_nil]
    exact hread token after hsuffix fields
  rw [← List.append_nil parts] at h
  obtain ⟨rest, hparts, hblank⟩ := readParts?_append hliteral [] hstart hread' fields h
  rw [List.append_nil] at hparts
  exact ⟨rest, hparts, hblank⟩

theorem readParts?_render {locale : Locale} {v : DateTime} {parts : List FormatPart}
    (hdigits : ∀ token ∈ tokens parts, token.unit?.isSome)
    (hyear : .year4 ∈ tokens parts → 0 ≤ v.date.year ∧ v.date.year ≤ 9999)
    (hopen : ∀ token after, .token token :: after <:+ parts → token.isOpen →
      ¬ (partsText locale v after).head?.any isAsciiDigit)
    (fields : DateFields) {t : Text}
    (h : Text.trimStart t = Text.trimStart (partsText locale v parts)) :
    ∃ rest, readParts? locale parts fields t = some ((tokens parts).foldl (record v) fields, rest) ∧
      Text.trimStart rest = [] := by
  refine readParts?_write (fun _ => rfl) (fun token htoken => ?_)
    (fun token after hsuffix fields => ?_) fields h
  · exact trimStart_unitText_append locale (hdigits token htoken)
      fun h => (hyear (h ▸ htoken)).1
  · have htoken : token ∈ tokens parts := mem_tokens_of_suffix hsuffix
    exact readToken?_unitText (hdigits token htoken) (fun h => hyear (h ▸ htoken))
      (hopen token after hsuffix) _ fields

/-! ### Fields -/

theorem lastOf?_cons (unit : DateUnit) (token : DateToken) (ts : List DateToken) :
    lastOf? unit (token :: ts) =
      (lastOf? unit ts).or (if token.unit? = some unit then some token else none) := by
  unfold lastOf?
  by_cases h : token.unit? = some unit
  · rw [List.filter_cons_of_pos (by simpa using h), List.getLast?_cons, if_pos h]
    cases (ts.filter fun token => token.unit? = some unit).getLast? <;> rfl
  · rw [List.filter_cons_of_neg (by simpa using h), if_neg h, Option.or_none]

theorem hasUnit_eq_isSome (parts : List FormatPart) (unit : DateUnit) :
    hasUnit parts unit = (lastOf? unit (tokens parts)).isSome := by
  unfold hasUnit
  induction tokens parts with
  | nil => rfl
  | cons token ts ih =>
    rw [lastOf?_cons, List.any_cons, ih]
    by_cases h : token.unit? = some unit <;> simp [h]

/-- A field that the tokens of one unit set holds in the end what the last of them gave it. -/
theorem field_foldl_record {α : Type} (field : DateFields → Option α) (unit : DateUnit)
    (value : DateToken → α) {v : DateTime}
    (hfield : ∀ fields token, field (record v fields token) =
      if token.unit? = some unit then some (value token) else field fields)
    (hempty : field {} = none) (ts : List DateToken) :
    field (ts.foldl (record v) {}) = (lastOf? unit ts).map value := by
  -- The last token of the unit wins; what was there before stays only if there is none.
  have hall (fields : DateFields) :
      field (ts.foldl (record v) fields) = ((lastOf? unit ts).map value).or (field fields) := by
    induction ts generalizing fields with
    | nil => rfl
    | cons token ts ih =>
      rw [List.foldl_cons, ih, hfield, lastOf?_cons]
      by_cases h : token.unit? = some unit <;> cases lastOf? unit ts <;> simp [h]
  rw [hall, hempty, Option.or_none]

/-- The year that a token shows. -/
def yearOf (v : DateTime) (token : DateToken) : Int :=
  if token = .year4 then v.date.year else shortYear (v.date.year % 100).toNat

/-- The hour that a token shows. -/
def hourOf (v : DateTime) (token : DateToken) : Nat :=
  if token = .hour12Padded ∨ token = .hour12 then hour12 v.time.hour else v.time.hour

theorem year_foldl_record (v : DateTime) (ts : List DateToken) :
    (ts.foldl (record v) {}).year = (lastOf? .year ts).map (yearOf v) :=
  field_foldl_record DateFields.year .year (yearOf v) (fun _ token => by cases token <;> rfl) rfl ts

theorem month_foldl_record (v : DateTime) (ts : List DateToken) :
    (ts.foldl (record v) {}).month = (lastOf? .month ts).map fun _ => v.date.month :=
  field_foldl_record DateFields.month .month _ (fun _ token => by cases token <;> rfl) rfl ts

theorem day_foldl_record (v : DateTime) (ts : List DateToken) :
    (ts.foldl (record v) {}).day = (lastOf? .day ts).map fun _ => v.date.day :=
  field_foldl_record DateFields.day .day _ (fun _ token => by cases token <;> rfl) rfl ts

theorem hour_foldl_record (v : DateTime) (ts : List DateToken) :
    (ts.foldl (record v) {}).hour = (lastOf? .hour ts).map (hourOf v) :=
  field_foldl_record DateFields.hour .hour (hourOf v) (fun _ token => by cases token <;> rfl) rfl ts

theorem minute_foldl_record (v : DateTime) (ts : List DateToken) :
    (ts.foldl (record v) {}).minute = (lastOf? .minute ts).map fun _ => v.time.minute :=
  field_foldl_record DateFields.minute .minute _ (fun _ token => by cases token <;> rfl) rfl ts

theorem second_foldl_record (v : DateTime) (ts : List DateToken) :
    (ts.foldl (record v) {}).second = (lastOf? .second ts).map fun _ => v.time.second :=
  field_foldl_record DateFields.second .second _ (fun _ token => by cases token <;> rfl) rfl ts

theorem afternoon_foldl_record (v : DateTime) (ts : List DateToken) :
    (ts.foldl (record v) {}).afternoon = (lastOf? .half ts).map fun _ =>
      decide (12 ≤ v.time.hour) :=
  field_foldl_record DateFields.afternoon .half _ (fun _ token => by cases token <;> rfl) rfl ts

/-! ### Units -/

/-- The units of a time of day that some parts write; the others are zero, and so is the fraction of
the second. -/
def timeIn (parts : List FormatPart) (time : Time) : Time where
  hour := if hasUnit parts .hour then time.hour else 0
  minute := if hasUnit parts .minute then time.minute else 0
  second := if hasUnit parts .second then time.second else 0
  nanosecond := 0
  hour_lt := by split <;> have := time.hour_lt <;> omega
  minute_lt := by split <;> have := time.minute_lt <;> omega
  second_lt := by split <;> have := time.second_lt <;> omega
  nanosecond_lt := Time.midnight.nanosecond_lt

theorem getD_map_lastOf? (unit : DateUnit) (parts : List FormatPart) (n : Nat) :
    ((lastOf? unit (tokens parts)).map fun _ => n).getD 0 =
      if hasUnit parts unit then n else 0 := by
  rw [hasUnit_eq_isSome]
  cases lastOf? unit (tokens parts) <;> rfl

/-- Two digits stand for the year again in the hundred years that they can stand for. -/
theorem shortYear_emod {year : Int} (h : 1969 ≤ year ∧ year ≤ 2068) :
    shortYear (year % 100).toNat = year := by
  unfold shortYear
  split <;> omega

/-- The hour that is understood from a half of the day and an hour on either clock. -/
def hourIn : Option Bool → Nat → Nat
  | some true, hour => if hour < 12 then hour + 12 else hour
  | some false, hour => if hour = 12 then 0 else hour
  | none, hour => hour

/-- With its half of the day, an hour on a twelve-hour clock is understood. -/
theorem hourIn_hour12 {hour : Nat} (h : hour < 24) :
    hourIn (some (decide (12 ≤ hour))) (hour12 hour) = hour := by
  unfold hour12
  by_cases hhalf : 12 ≤ hour <;> simp only [hhalf, decide_true, decide_false, hourIn] <;>
    split_ifs <;> omega

/-- An hour on a twenty-four-hour clock is left alone by its half of the day. -/
theorem hourIn_self (hour : Nat) : hourIn (some (decide (12 ≤ hour))) hour = hour := by
  by_cases hhalf : 12 ≤ hour <;> simp only [hhalf, decide_true, decide_false, hourIn] <;>
    split_ifs <;> omega

theorem hour_foldl_resolve {locale : Locale} {v : DateTime} {parts : List FormatPart}
    (h : ReadsBack locale v parts) :
    hourIn ((lastOf? .half (tokens parts)).map fun _ => decide (12 ≤ v.time.hour))
      (((lastOf? .hour (tokens parts)).map (hourOf v)).getD 0) = (timeIn parts v.time).hour := by
  have hhalf := h.hour_of_half
  have htwelve := h.half_of_hour
  simp only [hasUnit_eq_isSome] at hhalf htwelve
  simp only [timeIn, hasUnit_eq_isSome]
  cases hhour : lastOf? .hour (tokens parts) with
  | none =>
    rw [hhour] at hhalf
    cases hlast : lastOf? .half (tokens parts) with
    | none => rfl
    | some mark =>
      rw [hlast] at hhalf
      exact absurd (hhalf rfl) Bool.false_ne_true
  | some token =>
    simp only [hhour, Option.some.injEq] at htwelve
    by_cases htoken : token = .hour12Padded ∨ token = .hour12
    · obtain ⟨mark, hlast⟩ := Option.isSome_iff_exists.1 (htwelve htoken)
      simp [hlast, hourOf, htoken, hourIn_hour12 v.time.hour_lt]
    · cases lastOf? .half (tokens parts) with
      | none => simp [hourOf, htoken, hourIn]
      | some mark => simp [hourOf, htoken, hourIn_self]

theorem year_foldl_resolve {locale : Locale} {v : DateTime} {parts : List FormatPart}
    (h : ReadsBack locale v parts) :
    (lastOf? .year (tokens parts)).map (yearOf v) = some v.date.year := by
  rcases h.year with ⟨hlast, -⟩ | ⟨hlast, hrange⟩
  · rw [hlast]
    rfl
  · rw [hlast]
    exact congrArg some (shortYear_emod hrange)

/-- With a full date nothing is taken from the present. -/
theorem resolve?_of_date {fields : DateFields} {d : Date} (hyear : fields.year = some d.year)
    (hmonth : fields.month = some d.month) (hday : fields.day = some d.day) (now : DateTime) :
    fields.resolve? now =
      (Time.of? (hourIn fields.afternoon (fields.hour.getD 0)) (fields.minute.getD 0)
        (fields.second.getD 0)).map fun time => ⟨d, time⟩ := by
  unfold DateFields.resolve?
  simp only [hyear, hmonth, hday, Option.getD_some, Date.of?_self]
  rcases fields.afternoon with _ | _ | _ <;> exact (Option.map_eq_bind ..).symm

/-- What the tokens of a format record resolves to the date, and to the units of the time that the
format has, whatever the present is. -/
theorem resolve?_foldl_record {locale : Locale} {v : DateTime} {parts : List FormatPart}
    (h : ReadsBack locale v parts) (now : DateTime) :
    ((tokens parts).foldl (record v) {}).resolve? now = some ⟨v.date, timeIn parts v.time⟩ := by
  have hyear := (year_foldl_record v (tokens parts)).trans (year_foldl_resolve h)
  have hmonth : ((tokens parts).foldl (record v) {}).month = some v.date.month := by
    obtain ⟨token, hlast⟩ := Option.isSome_iff_exists.1 ((hasUnit_eq_isSome ..).symm.trans h.month)
    rw [month_foldl_record, hlast]
    rfl
  have hday : ((tokens parts).foldl (record v) {}).day = some v.date.day := by
    obtain ⟨token, hlast⟩ := Option.isSome_iff_exists.1 ((hasUnit_eq_isSome ..).symm.trans h.day)
    rw [day_foldl_record, hlast]
    rfl
  have hminute : (((tokens parts).foldl (record v) {}).minute).getD 0 =
      (timeIn parts v.time).minute := by
    rw [minute_foldl_record, getD_map_lastOf?, timeIn]
  have hsecond : (((tokens parts).foldl (record v) {}).second).getD 0 =
      (timeIn parts v.time).second := by
    rw [second_foldl_record, getD_map_lastOf?, timeIn]
  rw [resolve?_of_date hyear hmonth hday, hour_foldl_record, afternoon_foldl_record,
    hour_foldl_resolve h, hminute, hsecond, Time.of?_self rfl, Option.map_some]

/-! ### Whole texts -/

/-- A format that reads back what it writes gives back the date, and the units of the time that it
has. -/
theorem parse?_render_digits {format : Text} {locale : Locale} {v : DateTime}
    (h : ReadsBack locale v (ofText format).parts) (now : DateTime) :
    (ofText format).parse? locale now ((ofText format).render locale v) =
      some ⟨v.date, timeIn (ofText format).parts v.time⟩ := by
  have hyear : 0 ≤ v.date.year ∧ v.date.year ≤ 9999 := by
    rcases h.year with ⟨-, hrange⟩ | ⟨-, hrange⟩ <;> omega
  obtain ⟨rest, hread, hblank⟩ :=
    readParts?_render h.digits (fun _ => hyear) h.no_digit {}
      (t := (ofText format).render locale v) rfl
  rw [parse?, hread]
  simp only [hblank, List.isEmpty_nil, if_true]
  exact resolve?_foldl_record h now

/-- Five minutes after midnight on a leap day. -/
def leapNight : DateTime :=
  ⟨⟨2000, 2, 29, by decide, by decide, by decide⟩,
    { Time.midnight with minute := 5, minute_lt := by decide }⟩

theorem parts_halfDay : (ofText "D.M.YYh:mmA").parts =
    [.token .day, .literal ['.'], .token .month, .literal ['.'], .token .year2, .token .hour12,
      .literal [':'], .token .minutePadded, .token .meridiemUpper] := by
  cbv

theorem readsBack_halfDay : ReadsBack Locale.english leapNight (ofText "D.M.YYh:mmA").parts := by
  rw [parts_halfDay]
  refine ⟨by decide, by decide, by decide, by decide, by decide, by decide, ?_⟩
  -- Six of the suffixes start with a token.
  simp only [List.suffix_cons_iff, List.cons.injEq, FormatPart.token.injEq, reduceCtorEq, false_and,
    false_or, or_false, List.suffix_nil]
  rintro token after (⟨rfl, rfl⟩ | ⟨rfl, rfl⟩ | ⟨rfl, rfl⟩ | ⟨rfl, rfl⟩ | ⟨rfl, rfl⟩ | ⟨rfl, rfl⟩) <;>
    decide

/-- Nothing stands between the year and the hour, the century is not shown, and the hour is the
twelfth of its half. -/
theorem parse?_render_leapNight :
    ReadsBack Locale.english leapNight (ofText "D.M.YYh:mmA").parts ∧
      (ofText "D.M.YYh:mmA").render Locale.english leapNight = "29.2.0012:05AM" ∧
      (ofText "D.M.YYh:mmA").parse? Locale.english leapNight
        ((ofText "D.M.YYh:mmA").render Locale.english leapNight) = some leapNight := by
  refine ⟨readsBack_halfDay, ?_, ?_⟩
  · rw [render, parts_halfDay]
    decide
  · rw [parse?_render_digits readsBack_halfDay leapNight, parts_halfDay]
    decide

end DatePattern

end Playbill
