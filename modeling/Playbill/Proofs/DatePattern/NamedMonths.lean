import Playbill.Proofs.DatePattern.MonthForms
import Playbill.Proofs.DatePattern.RoundTrip

/-!
# Reading back named months

A date with its month in words, and with the names of weekdays anywhere, is read back by the format
that wrote it, also if the month is written in another form that its language has.

* `DateToken.readsOn`: the characters that a token would take in after its own text.
* `NamesMonth`: the conditions under which a format reads back what it writes.
* `writeForm`: the text of a format with the month in a given form.
* `isChain_scan`: a format has no two literals next to each other, so that a dot after a name is one
  that the format expects; `nextLiteral_of_head`, where each token `BeginsUnit`.
* `readParts?_writeForm`: all parts in order read their own texts.
* `parse?_render_names`: the date comes back.
-/

namespace Playbill

/-! ### Formats -/

namespace DateToken

/-- A month in words. -/
def isMonthName : DateToken → Bool
  | monthName | monthShort => true
  | _ => false

/-- A weekday. -/
def isWeekday : DateToken → Bool
  | weekdayName | weekdayShort | weekdayMin => true
  | _ => false

/-- A token of a date with its month in words. -/
def isNamed : DateToken → Bool
  | year4 | day2 | day => true
  | token => token.isMonthName || token.isWeekday

/-- The characters that a token takes in after its own text. -/
def readsOn : DateToken → Char → Bool
  | monthName | monthShort => isAlphabetic
  | weekdayName | weekdayShort | weekdayMin => DatePattern.isNameChar
  | day => isAsciiDigit
  | _ => fun _ => false

end DateToken

/-- Whether a part is literal text. -/
def FormatPart.isLiteral : FormatPart → Bool
  | .literal _ => true
  | .token _ => false

namespace DatePattern

/-- A format reads back what it writes: it has a year of four digits, a month in words and a day,
and nothing else but weekdays and literals; and no token takes in what comes after it: a month no
letter, a weekday no letter or hyphen, and a day without a leading zero no digit. -/
structure NamesMonth (locale : Locale) (v : DateTime) (parts : List FormatPart) : Prop where
  named : ∀ token ∈ tokens parts, token.isNamed
  year : .year4 ∈ tokens parts
  year_mem : 0 ≤ v.date.year ∧ v.date.year ≤ 9999
  month : ∃ token ∈ tokens parts, token.isMonthName
  day : .day2 ∈ tokens parts ∨ .day ∈ tokens parts
  stops : ∀ token after, .token token :: after <:+ parts →
    ¬ (partsText locale v after).head?.any token.readsOn

/-- One part of a format, with the month in a given form. -/
def formText (locale : Locale) (v : DateTime) (form : DateToken → Text) : FormatPart → Text
  | .literal text => text
  | .token token => if token.isMonthName then form token else unitText locale v token

/-- The text of some parts of a format, with the month in a given form. -/
def writeForm (locale : Locale) (v : DateTime) (form : DateToken → Text)
    (parts : List FormatPart) : Text :=
  parts.flatMap (formText locale v form)

/-- The form is one of those that the locale lists for the month. -/
def IsForm (locale : Locale) (v : DateTime) (form : DateToken → Text) : Prop :=
  ∀ token : DateToken, token.isMonthName → (v.date.month, form token) ∈ monthForms locale

theorem writeForm_unitText (locale : Locale) (v : DateTime) (parts : List FormatPart) :
    writeForm locale v (unitText locale v) parts = partsText locale v parts := by
  unfold writeForm partsText
  congr 1
  funext part
  cases part with
  | literal text => rfl
  | token token => exact ite_self _

variable {locale : Locale} {v : DateTime} {form : DateToken → Text}

theorem isForm_unitText (hlocale : locale.WellNamed) : IsForm locale v (unitText locale v) := by
  have hforms := mem_monthForms hlocale v.date.month_mem
  intro token htoken
  cases token
  case monthName => exact hforms.1
  case monthShort => exact hforms.2
  all_goals cases htoken

/-! ### The first character of a token -/

/-- A text begins with a character that is neither a blank nor a dot. -/
def BeginsUnit (t : Text) : Prop :=
  ∃ c cs, t = c :: cs ∧ isBlank c = false ∧ c ≠ '.'

theorem BeginsUnit.trimStart_append {t : Text} (h : BeginsUnit t) (rest : Text) :
    Text.trimStart (t ++ rest) = t ++ rest := by
  obtain ⟨c, cs, rfl, hblank, -⟩ := h
  exact Text.trimStart_cons_of_not_blank hblank _

theorem beginsUnit_digits {digits : Text} (hne : digits ≠ [])
    (hall : ∀ c ∈ digits, isAsciiDigit c) : BeginsUnit digits := by
  obtain ⟨c, cs, rfl⟩ := List.exists_cons_of_ne_nil hne
  have hc := hall c List.mem_cons_self
  refine ⟨c, cs, rfl, Text.isBlank_of_isAsciiDigit hc, ?_⟩
  rintro rfl
  cases hc

theorem beginsUnit_name {name : Text} (h : name ≠ [] ∧ ∀ c ∈ name, isNameChar c) :
    BeginsUnit name := by
  obtain ⟨hne, hall⟩ := h
  obtain ⟨c, cs, rfl⟩ := List.exists_cons_of_ne_nil hne
  have hc := hall c List.mem_cons_self
  refine ⟨c, cs, rfl, ?_, ?_⟩
  · rcases Bool.or_eq_true_iff.1 hc with hletter | hhyphen
    · exact isBlank_of_isAlphabetic hletter
    · rw [beq_iff_eq.1 hhyphen]
      rfl
  · rintro rfl
    rw [isNameChar, not_isAlphabetic_of_lt (by decide)] at hc
    cases hc

theorem exists_cons_form (hlocale : locale.WellNamed) (hform : IsForm locale v form)
    {token : DateToken} (htoken : token.isMonthName) :
    ∃ c cs, formText locale v form (.token token) = c :: cs ∧ isAlphabetic c := by
  obtain ⟨hne, hletters, -⟩ := hlocale.letters _ (hform token htoken)
  obtain ⟨c, cs, hcons⟩ := List.exists_cons_of_ne_nil hne
  refine ⟨c, cs, by rw [formText, if_pos htoken]; exact hcons, ?_⟩
  exact hletters c (hcons ▸ List.mem_cons_self)

theorem unitText_weekday (hlocale : locale.WellNamed) (v : DateTime) {t : DateToken}
    (ht : t.isWeekday) :
    unitText locale v t ≠ [] ∧ ∀ c ∈ unitText locale v t, isNameChar c := by
  have hlt : v.date.weekday < 7 := by
    unfold Date.weekday
    omega
  have hname {names : List Text} (hlen : names.length = 7)
      (hnames : ∀ name ∈ names, name ≠ [] ∧ ∀ c ∈ name, isNameChar c) :
      nameAt names v.date.weekday ≠ [] ∧ ∀ c ∈ nameAt names v.date.weekday, isNameChar c := by
    rw [nameAt, List.getElem?_eq_getElem (by omega), Option.getD_some]
    exact hnames _ (List.getElem_mem _)
  obtain ⟨hlong, hshort⟩ := List.forall_mem_append.1 hlocale.weekday
  cases t
  case weekdayName => exact hname hlocale.weekdays.1 hlong
  case weekdayShort | weekdayMin => exact hname hlocale.weekdays.2 hshort
  all_goals cases ht

theorem beginsUnit_year4 (locale : Locale) (hyear : 0 ≤ v.date.year) :
    BeginsUnit (unitText locale v .year4) := by
  rw [unitText_year4 locale hyear]
  exact beginsUnit_digits (Text.padded_ne_nil _ _) fun _ => Text.isAsciiDigit_of_mem_padded

theorem beginsUnit_form (hlocale : locale.WellNamed) (hform : IsForm locale v form)
    {token : DateToken} (htoken : token.isMonthName) : BeginsUnit (form token) := by
  obtain ⟨hne, hletters, -⟩ := hlocale.letters _ (hform token htoken)
  exact beginsUnit_name ⟨hne, fun c hc => Bool.or_eq_true_iff.2 (.inl (hletters c hc))⟩

/-- A token starts with neither a blank nor a dot. -/
theorem beginsUnit_formText (hlocale : locale.WellNamed) (hform : IsForm locale v form)
    (hyear : 0 ≤ v.date.year) {token : DateToken} (htoken : token.isNamed) :
    BeginsUnit (formText locale v form (.token token)) := by
  cases token
  case year4 => exact beginsUnit_year4 locale hyear
  case day2 =>
    exact beginsUnit_digits (Text.padded_ne_nil _ _) fun _ => Text.isAsciiDigit_of_mem_padded
  case day =>
    exact beginsUnit_digits (Text.ofNat_ne_nil _) fun _ => Text.isAsciiDigit_of_mem_ofNat
  case monthName | monthShort => exact beginsUnit_form hlocale hform rfl
  case weekdayName => exact beginsUnit_name (unitText_weekday hlocale v (t := .weekdayName) rfl)
  case weekdayShort | weekdayMin =>
    exact beginsUnit_name (unitText_weekday hlocale v (t := .weekdayShort) rfl)
  all_goals cases htoken

/-- What comes after a token starts in the same way, whatever the form of the month. -/
theorem any_head_writeForm (hlocale : locale.WellNamed) (hform : IsForm locale v form)
    {p : Char → Bool} {b : Bool} (hp : ∀ c, isAlphabetic c → p c = b) (parts : List FormatPart) :
    (writeForm locale v form parts).head?.any p = (partsText locale v parts).head?.any p := by
  rw [← writeForm_unitText]
  induction parts with
  | nil => rfl
  | cons part parts ih =>
    have hsame (h : formText locale v form part = formText locale v (unitText locale v) part) :
        (writeForm locale v form (part :: parts)).head?.any p =
          (writeForm locale v (unitText locale v) (part :: parts)).head?.any p := by
      rw [writeForm, writeForm, List.flatMap_cons, List.flatMap_cons, h, List.head?_append,
        List.head?_append]
      cases (formText locale v (unitText locale v) part).head? with
      | none => exact ih
      | some c => rfl
    cases part with
    | literal text => exact hsame rfl
    | token token =>
      by_cases htoken : token.isMonthName
      · obtain ⟨c, cs, hc, hletter⟩ := exists_cons_form hlocale hform htoken
        obtain ⟨d, ds, hd, hletter'⟩ :=
          exists_cons_form hlocale (isForm_unitText (v := v) hlocale) htoken
        rw [writeForm, writeForm, List.flatMap_cons, List.flatMap_cons, hc, hd]
        exact (hp c hletter).trans (hp d hletter').symm
      · exact hsame (by rw [formText, formText, if_neg htoken, if_neg htoken])

theorem readsOn_of_isAlphabetic (token : DateToken) :
    ∃ b, ∀ c, isAlphabetic c → token.readsOn c = b := by
  cases token
  case monthName | monthShort => exact ⟨true, fun c hc => hc⟩
  case weekdayName | weekdayShort | weekdayMin =>
    exact ⟨true, fun c hc => Bool.or_eq_true_iff.2 (.inl hc)⟩
  case day => exact ⟨false, fun c hc => isAsciiDigit_of_isAlphabetic hc⟩
  all_goals exact ⟨false, fun _ _ => rfl⟩

/-! ### Neighbouring literals -/

/-- No two literals stand next to each other. -/
def Apart (part next : FormatPart) : Prop :=
  part.isLiteral → ¬ next.isLiteral

theorem isChain_consPart {part : FormatPart} {parts : List FormatPart} (h : parts.IsChain Apart) :
    (consPart part parts).IsChain Apart := by
  unfold consPart
  split
  · cases h with
    | singleton => exact .singleton _
    | cons_cons hhead htail => exact .cons_cons hhead htail
  · rename_i hmerge
    cases parts with
    | nil => exact .singleton _
    | cons next parts =>
      refine .cons_cons (fun hpart hnext => ?_) h
      cases part with
      | token => cases hpart
      | literal text =>
        cases next with
        | token => cases hnext
        | literal text' => exact hmerge text text' parts rfl rfl

theorem isChain_scan (t : Text) : (scan t).IsChain Apart := by
  fun_induction scan t with
  | case1 => exact .nil
  | case2 c t body after hbracket ih => exact isChain_consPart ih
  | case3 c t hbracket token after htoken ih =>
    cases hscan : scan after with
    | nil => exact .singleton _
    | cons next parts =>
      rw [hscan] at ih
      exact .cons_cons (fun hpart => by cases hpart) ih
  | case4 c t hbracket htoken ih => exact isChain_consPart ih

/-- A dot after a token is one that the format expects there. -/
theorem nextLiteral_of_head {write : FormatPart → Text}
    (hliteral : ∀ text, write (.literal text) = text) {parts : List FormatPart}
    (hchain : parts.IsChain Apart) (hunit : ∀ token ∈ tokens parts, BeginsUnit (write (.token token)))
    (hdot : (parts.flatMap write).head? = some '.') : nextLiteral parts = some '.' := by
  have htoken {token : DateToken} (hbegins : BeginsUnit (write (.token token))) (after : Text) :
      (write (.token token) ++ after).head? ≠ some '.' := by
    obtain ⟨c, cs, hc, -, hne⟩ := hbegins
    rw [hc]
    exact fun h => hne (Option.some.inj h)
  match parts, hchain with
  | [], _ => cases hdot
  | .token token :: after, _ => exact absurd hdot (htoken (hunit token List.mem_cons_self) _)
  | .literal (c :: text) :: after, _ =>
    rw [List.flatMap_cons, hliteral] at hdot
    exact hdot
  | [.literal []], _ =>
    rw [List.flatMap_cons, hliteral] at hdot
    cases hdot
  | .literal [] :: .literal text :: after, .cons_cons hapart _ => exact absurd rfl (hapart rfl)
  | .literal [] :: .token token :: after, _ =>
    rw [List.flatMap_cons, hliteral] at hdot
    exact absurd hdot (htoken (hunit token List.mem_cons_self) _)

theorem dropDot_of_head {next : Option Char} {t : Text}
    (h : t.head? = some '.' → next = some '.') : dropDot next t = t := by
  unfold dropDot
  split
  · rw [h rfl]
    rfl
  · rfl

/-! ### Parts -/

/-- The fields after a token has been read from its own text. -/
def recordNamed (v : DateTime) (fields : DateFields) (token : DateToken) : DateFields :=
  if token.isMonthName then { fields with month := some v.date.month } else record v fields token

theorem readToken?_monthName (hlocale : locale.WellNamed) (hform : IsForm locale v form)
    {token : DateToken} (htoken : token.isMonthName) {rest : Text}
    (hstop : ¬ rest.head?.any token.readsOn) {next : Option Char}
    (hdot : rest.head? = some '.' → next = some '.') (fields : DateFields) :
    readToken? locale token next fields (form token ++ rest) =
      some ({ fields with month := some v.date.month }, rest) := by
  have hread (t : Text) : readToken? locale token next fields t =
      (readMonth? locale t).map fun found =>
        ({ fields with month := some found.1 }, dropDot next found.2) := by
    cases token <;> first | rfl | cases htoken
  have hletter : ¬ rest.head?.any isAlphabetic := by
    cases token <;> first | exact hstop | cases htoken
  rw [hread, readMonth?_append hlocale (hform token htoken) hletter, Option.map_some]
  simp only [dropDot_of_head hdot]

theorem readToken?_weekday (hlocale : locale.WellNamed) (v : DateTime) {token : DateToken}
    (htoken : token.isWeekday) {rest : Text} (hstop : ¬ rest.head?.any token.readsOn)
    {next : Option Char} (hdot : rest.head? = some '.' → next = some '.') (fields : DateFields) :
    readToken? locale token next fields (unitText locale v token ++ rest) =
      some (fields, rest) := by
  obtain ⟨hne, hname⟩ := unitText_weekday hlocale v htoken
  have hread (t : Text) : readToken? locale token next fields t =
      if (t.takeWhile isNameChar).isEmpty then none
      else some (fields, dropDot next (t.dropWhile isNameChar)) := by
    cases token <;> first | rfl | cases htoken
  have hchar : ¬ rest.head?.any isNameChar := by
    cases token <;> first | exact hstop | cases htoken
  obtain ⟨htake, hdrop⟩ := Text.takeWhile_dropWhile_append hname hchar
  rw [hread, htake, hdrop, dropDot_of_head hdot, if_neg (by simpa using hne)]

/-- A token reads its own text and leaves what comes after it. -/
theorem readToken?_form (hlocale : locale.WellNamed) (hform : IsForm locale v form)
    (hyear : 0 ≤ v.date.year ∧ v.date.year ≤ 9999) {token : DateToken} (htoken : token.isNamed)
    {rest : Text} (hstop : ¬ rest.head?.any token.readsOn) {next : Option Char}
    (hdot : rest.head? = some '.' → next = some '.') (fields : DateFields) :
    readToken? locale token next fields (formText locale v form (.token token) ++ rest) =
      some (recordNamed v fields token, rest) := by
  cases token
  case year4 | day2 =>
    exact readToken?_unitText rfl (fun _ => hyear) (fun h => absurd h (by decide)) next fields
  case day => exact readToken?_unitText rfl (fun _ => hyear) (fun _ => hstop) next fields
  case monthName | monthShort => exact readToken?_monthName hlocale hform rfl hstop hdot fields
  case weekdayName | weekdayShort | weekdayMin =>
    exact readToken?_weekday hlocale v rfl hstop hdot fields
  all_goals cases htoken

theorem readParts?_writeForm (hlocale : locale.WellNamed) (hform : IsForm locale v form)
    (hyear : 0 ≤ v.date.year ∧ v.date.year ≤ 9999) {parts : List FormatPart}
    (hchain : parts.IsChain Apart) (hnamed : ∀ token ∈ tokens parts, token.isNamed)
    (hstops : ∀ token after, .token token :: after <:+ parts →
      ¬ (writeForm locale v form after).head?.any token.readsOn)
    (fields : DateFields) {t : Text}
    (h : Text.trimStart t = Text.trimStart (writeForm locale v form parts)) :
    ∃ rest, readParts? locale parts fields t =
      some ((tokens parts).foldl (recordNamed v) fields, rest) ∧ Text.trimStart rest = [] := by
  have hunit : ∀ token ∈ tokens parts, BeginsUnit (formText locale v form (.token token)) :=
    fun token htoken => beginsUnit_formText hlocale hform hyear.1 (hnamed token htoken)
  refine readParts?_write (fun _ => rfl) (fun token htoken => (hunit token htoken).trimStart_append)
    (fun token after hsuffix fields => ?_) fields h
  have hafter : after <:+ parts := (List.suffix_cons ..).trans hsuffix
  refine readToken?_form hlocale hform hyear (hnamed token (mem_tokens_of_suffix hsuffix))
    (hstops token after hsuffix) (fun hdot => ?_) fields
  exact nextLiteral_of_head (fun _ => rfl) (hchain.suffix hafter)
    (fun token htoken => hunit token (tokens_subset_of_suffix hafter htoken)) hdot

/-! ### Fields -/

/-- The fields that some tokens record: those of the date that they write, and no others. -/
theorem foldl_recordNamed {ts : List DateToken} (hnamed : ∀ token ∈ ts, token.isNamed)
    (fields : DateFields) :
    ts.foldl (recordNamed v) fields =
      { fields with
        year := if .year4 ∈ ts then some v.date.year else fields.year
        month := if ∃ token ∈ ts, token.isMonthName then some v.date.month else fields.month
        day := if .day2 ∈ ts ∨ .day ∈ ts then some v.date.day else fields.day } := by
  induction ts generalizing fields with
  | nil => simp
  | cons token ts ih =>
    obtain ⟨htoken, hnamed⟩ := List.forall_mem_cons.1 hnamed
    rw [List.foldl_cons, ih hnamed]
    cases token
    case year4 | day2 | day | monthName | monthShort | weekdayName | weekdayShort | weekdayMin =>
      simp [recordNamed, record, DateToken.isMonthName]
    all_goals cases htoken

theorem resolve?_foldl_recordNamed {parts : List FormatPart} (h : NamesMonth locale v parts)
    (now : DateTime) :
    ((tokens parts).foldl (recordNamed v) {}).resolve? now = some ⟨v.date, Time.midnight⟩ := by
  rw [foldl_recordNamed h.named, if_pos h.year, if_pos h.month, if_pos h.day]
  rw [resolve?_of_date rfl rfl rfl]
  rfl

/-! ### Whole texts -/

theorem parse?_writeForm {format : Text} (hlocale : locale.WellNamed) (hform : IsForm locale v form)
    (h : NamesMonth locale v (ofText format).parts) (now : DateTime) :
    (ofText format).parse? locale now (writeForm locale v form (ofText format).parts) =
      some ⟨v.date, Time.midnight⟩ := by
  have hstops : ∀ token after, .token token :: after <:+ (ofText format).parts →
      ¬ (writeForm locale v form after).head?.any token.readsOn := by
    intro token after hsuffix
    obtain ⟨b, hb⟩ := readsOn_of_isAlphabetic token
    rw [any_head_writeForm hlocale hform hb]
    exact h.stops token after hsuffix
  have hchain : (ofText format).parts.IsChain Apart := isChain_scan format
  obtain ⟨rest, hread, hblank⟩ :=
    readParts?_writeForm hlocale hform h.year_mem hchain h.named hstops {} rfl
  rw [parse?, hread]
  simp only [hblank, List.isEmpty_nil, if_true]
  exact resolve?_foldl_recordNamed h now

/-- **A format with its month in words reads back the date it wrote**, in every built-in locale and
whatever the present is; and it does so with any other form of the month too. -/
theorem parse?_render_names {format : Text} (hlocale : locale ∈ Locale.all)
    (h : NamesMonth locale v (ofText format).parts) (now : DateTime) :
    (ofText format).parse? locale now ((ofText format).render locale v) =
        some ⟨v.date, Time.midnight⟩ ∧
      ∀ name, (v.date.month, name) ∈ monthForms locale →
        (ofText format).parse? locale now
            (writeForm locale v (fun _ => name) (ofText format).parts) =
          some ⟨v.date, Time.midnight⟩ := by
  have hwell := wellNamed_of_mem_all hlocale
  constructor
  · have hparse := parse?_writeForm hwell (isForm_unitText hwell) h now
    rw [writeForm_unitText] at hparse
    exact hparse
  · exact fun name hname => parse?_writeForm hwell (fun _ _ => hname) h now

/-- An evening in July, whose Czech name starts with that of June. -/
def julyEvening : DateTime :=
  ⟨⟨2024, 7, 1, by decide, by decide, by decide⟩,
    { Time.midnight with hour := 20, hour_lt := by decide }⟩

theorem parts_weekdayDate : (ofText "dddd D. MMMM YYYY").parts =
    [.token .weekdayName, .literal [' '], .token .day, .literal ['.', ' '], .token .monthName,
      .literal [' '], .token .year4] := by
  cbv

theorem namesMonth_weekdayDate :
    NamesMonth Locale.czech julyEvening (ofText "dddd D. MMMM YYYY").parts := by
  rw [parts_weekdayDate]
  refine ⟨by decide, by decide, by decide, by decide, by decide, ?_⟩
  -- Four of the suffixes start with a token.
  simp only [List.suffix_cons_iff, List.cons.injEq, FormatPart.token.injEq, reduceCtorEq, false_and,
    false_or, or_false, List.suffix_nil]
  rintro token after (⟨rfl, rfl⟩ | ⟨rfl, rfl⟩ | ⟨rfl, rfl⟩ | ⟨rfl, rfl⟩) <;> decide +kernel

/-- The evening's date as it is written, with the month in a given form. -/
theorem writeForm_julyEvening (name : Text) :
    writeForm Locale.czech julyEvening (fun _ => name) (ofText "dddd D. MMMM YYYY").parts =
      "pondělí 1. ".toList ++ name ++ " 2024".toList := by
  rw [parts_weekdayDate]
  rfl

/-- July in the genitive and in short. -/
theorem mem_monthForms_july :
    (7, ("července" : Text)) ∈ monthForms Locale.czech ∧
      (7, ("čvc" : Text)) ∈ monthForms Locale.czech := by
  unfold Locale.czech
  repeat rw [names_ofList]
  decide +kernel

/-- The month may be July in the nominative, as it is written, or in the genitive or in short. -/
theorem parse?_render_july :
    Locale.czech ∈ Locale.all ∧
      NamesMonth Locale.czech julyEvening (ofText "dddd D. MMMM YYYY").parts ∧
      (ofText "dddd D. MMMM YYYY").parse? Locale.czech leapNight
          ((ofText "dddd D. MMMM YYYY").render Locale.czech julyEvening) =
        some ⟨julyEvening.date, Time.midnight⟩ ∧
      ((7, ("července" : Text)) ∈ monthForms Locale.czech ∧
        (ofText "dddd D. MMMM YYYY").parse? Locale.czech leapNight "pondělí 1. července 2024" =
          some ⟨julyEvening.date, Time.midnight⟩) ∧
      (7, ("čvc" : Text)) ∈ monthForms Locale.czech ∧
        (ofText "dddd D. MMMM YYYY").parse? Locale.czech leapNight "pondělí 1. čvc 2024" =
          some ⟨julyEvening.date, Time.midnight⟩ := by
  have hlocale : Locale.czech ∈ Locale.all := by simp [Locale.all]
  obtain ⟨hrender, hforms⟩ := parse?_render_names hlocale namesMonth_weekdayDate leapNight
  obtain ⟨hgenitive, hshort⟩ := mem_monthForms_july
  have hparse := hforms _ hgenitive
  have hparse' := hforms _ hshort
  rw [writeForm_julyEvening] at hparse hparse'
  exact ⟨hlocale, namesMonth_weekdayDate, hrender, ⟨hgenitive, hparse⟩, hshort, hparse'⟩

end DatePattern

end Playbill
