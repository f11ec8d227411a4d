import Playbill.Proofs.DatePattern.NamedMonths

/-!
# Reading back ordinal days

A date with its day as an ordinal is read back by the format that wrote it, unless the language
marks its ordinals by a dot.  The reader takes in letters and the masculine sign after the digits,
but no dot, so that a dot is left over that nothing in the format accounts for.

* `WritesOrdinal`: the formats in question, with what may come after a day and after a month.
* `exists_ordinalMark`: an ordinal is a numeral with a mark.
* `readToken?_ordinalDate`: a token reads its own text, unless it is a day with a dot.
* `readParts?_dot`: parts that find a dot before their own text fail, or leave a dot over.
* `parse?_render_ordinal`: the date comes back, or nothing does.
-/

namespace Playbill

/-! ### Formats -/

namespace DateToken

/-- A month in digits or in words. -/
def isMonth : DateToken → Bool
  | month2 => true
  | token => token.isMonthName

/-- A token of a date with its day as an ordinal. -/
def isOrdinalDate : DateToken → Bool
  | year4 | dayOrdinal => true
  | token => token.isMonth

end DateToken

namespace DatePattern

/-- A format writes a date with a year of four digits, a month in two digits or in words and a day
as an ordinal, and nothing else but literals; a blank or nothing comes after the day, and no letter
after a month in words. -/
structure WritesOrdinal (locale : Locale) (v : DateTime) (parts : List FormatPart) : Prop where
  ordinalDate : ∀ token ∈ tokens parts, token.isOrdinalDate
  year : .year4 ∈ tokens parts
  year_mem : 0 ≤ v.date.year ∧ v.date.year ≤ 9999
  month : ∃ token ∈ tokens parts, token.isMonth
  day : .dayOrdinal ∈ tokens parts
  day_stops : ∀ after, .token .dayOrdinal :: after <:+ parts →
    (partsText locale v after).head?.all isBlank
  month_stops : ∀ token after, token.isMonthName → .token token :: after <:+ parts →
    ¬ (partsText locale v after).head?.any isAlphabetic

variable {locale : Locale} {v : DateTime}

/-! ### Ordinals -/

/-- The characters that are taken in after the digits of an ordinal. -/
def isOrdinalMark (c : Char) : Bool :=
  isAlphabetic c || c == 'º'

/-- An ordinal is a numeral with a mark, of characters that are taken in unless it is a dot. -/
theorem exists_ordinalMark (style : OrdinalStyle) (day : Nat) :
    ∃ mark, style.text day = Text.ofNat day ++ mark ∧ if style = .dot then mark = ['.']
      else ∀ c ∈ mark, isOrdinalMark c := by
  have hmark {mark : Text} (h : mark.all isOrdinalMark = true) : ∀ c ∈ mark, isOrdinalMark c :=
    List.all_eq_true.1 h
  cases style with
  | english =>
    refine ⟨_, rfl, hmark ?_⟩
    split_ifs <;> decide
  | dot => exact ⟨_, rfl, rfl⟩
  | french =>
    by_cases hday : day = 1
    · subst hday
      exact ⟨"er".toList, by decide, hmark (by decide)⟩
    · exact ⟨[], by rw [OrdinalStyle.text, if_neg hday, List.append_nil], by simp⟩
  | masculine => exact ⟨_, rfl, hmark (by decide)⟩
  | bare => exact ⟨[], (List.append_nil _).symm, by simp⟩

theorem beginsUnit_ordinal (locale : Locale) (v : DateTime) :
    BeginsUnit (unitText locale v .dayOrdinal) := by
  obtain ⟨mark, htext, -⟩ := exists_ordinalMark locale.ordinal v.date.day
  obtain ⟨c, cs, hc, hrest⟩ :=
    beginsUnit_digits (Text.ofNat_ne_nil v.date.day) fun _ => Text.isAsciiDigit_of_mem_ofNat
  exact ⟨c, cs ++ mark, by rw [unitText, htext, hc]; rfl, hrest⟩

/-- The digits of an ordinal are read, and the mark as far as it can be. -/
theorem readToken?_dayOrdinal {mark : Text} (hmark : ¬ mark.head?.any isAsciiDigit)
    (next : Option Char) (fields : DateFields) :
    readToken? locale .dayOrdinal next fields (Text.ofNat v.date.day ++ mark) =
      some ({ fields with day := some v.date.day }, mark.dropWhile isOrdinalMark) := by
  have hday := v.date.day_le
  rw [readToken?, number?_ofNat (by decide) (by omega) hmark]
  rfl

theorem isAsciiDigit_of_isOrdinalMark {c : Char} (hc : isOrdinalMark c) :
    isAsciiDigit c = false := by
  rcases Bool.or_eq_true_iff.1 hc with hletter | hsign
  · exact isAsciiDigit_of_isAlphabetic hletter
  · rw [beq_iff_eq.1 hsign]
    rfl

theorem isOrdinalMark_of_isBlank {c : Char} (hc : isBlank c) : isOrdinalMark c = false := by
  rw [Bool.eq_false_iff]
  intro hmark
  rcases Bool.or_eq_true_iff.1 hmark with hletter | hsign
  · exact absurd hc (Bool.eq_false_iff.1 (isBlank_of_isAlphabetic hletter))
  · rw [beq_iff_eq.1 hsign] at hc
    cases hc

/-- Before a blank and at the end an ordinal without a dot is read in full. -/
theorem readToken?_ordinal (hstyle : locale.ordinal ≠ .dot) {rest : Text}
    (hrest : rest.head?.all isBlank) (next : Option Char) (fields : DateFields) :
    readToken? locale .dayOrdinal next fields (unitText locale v .dayOrdinal ++ rest) =
      some ({ fields with day := some v.date.day }, rest) := by
  obtain ⟨mark, htext, hmark⟩ := exists_ordinalMark locale.ordinal v.date.day
  rw [if_neg hstyle] at hmark
  have hstop {p : Char → Bool} (hp : ∀ c, isBlank c → p c = false) : ¬ rest.head?.any p := by
    cases rest with
    | nil => exact Bool.false_ne_true
    | cons c rest => exact Bool.eq_false_iff.1 (hp c hrest)
  have hhead : ¬ (mark ++ rest).head?.any isAsciiDigit := by
    cases mark with
    | nil => exact hstop fun c hc => by_contra fun hdigit =>
        absurd hc (Bool.eq_false_iff.1 (Text.isBlank_of_isAsciiDigit (by simpa using hdigit)))
    | cons c mark =>
      exact Bool.eq_false_iff.1 (isAsciiDigit_of_isOrdinalMark (hmark c List.mem_cons_self))
  rw [unitText, htext, List.append_assoc, readToken?_dayOrdinal hhead,
    (Text.takeWhile_dropWhile_append hmark (hstop fun _ => isOrdinalMark_of_isBlank)).2]

/-- The dot of an ordinal is left over. -/
theorem readToken?_ordinalDot (hstyle : locale.ordinal = .dot) (rest : Text) (next : Option Char)
    (fields : DateFields) :
    readToken? locale .dayOrdinal next fields (unitText locale v .dayOrdinal ++ rest) =
      some ({ fields with day := some v.date.day }, '.' :: rest) := by
  obtain ⟨mark, htext, hmark⟩ := exists_ordinalMark locale.ordinal v.date.day
  rw [if_pos hstyle] at hmark
  subst hmark
  have hhead : ¬ ('.' :: rest).head?.any isAsciiDigit := Bool.false_ne_true
  have hdrop : ('.' :: rest).dropWhile isOrdinalMark = '.' :: rest :=
    List.dropWhile_cons_of_neg (by rw [isOrdinalMark, not_isAlphabetic_of_lt (by decide)]; decide)
  rw [unitText, htext, List.append_assoc, List.singleton_append, readToken?_dayOrdinal hhead, hdrop]

/-! ### Reading -/

/-- The fields after a token has been read from its own text. -/
def recordOrdinal (v : DateTime) (fields : DateFields) (token : DateToken) : DateFields :=
  if token = .dayOrdinal then { fields with day := some v.date.day }
  else recordNamed v fields token

theorem beginsUnit_ordinalDate (hlocale : locale.WellNamed) (hyear : 0 ≤ v.date.year)
    {token : DateToken} (htoken : token.isOrdinalDate) : BeginsUnit (unitText locale v token) := by
  cases token
  case year4 => exact beginsUnit_year4 locale hyear
  case month2 =>
    exact beginsUnit_digits (Text.padded_ne_nil _ _) fun _ => Text.isAsciiDigit_of_mem_padded
  case monthName | monthShort => exact beginsUnit_form hlocale (isForm_unitText hlocale) rfl
  case dayOrdinal => exact beginsUnit_ordinal locale v
  all_goals cases htoken

/-- A token reads its own text and leaves what comes after it, unless it is a day with a dot. -/
theorem readToken?_ordinalDate (hlocale : locale.WellNamed) {parts : List FormatPart}
    (h : WritesOrdinal locale v parts) (hchain : parts.IsChain Apart) {token : DateToken}
    {after : List FormatPart} (hsuffix : .token token :: after <:+ parts)
    (hstyle : token = .dayOrdinal → locale.ordinal ≠ .dot) (fields : DateFields) :
    readToken? locale token (nextLiteral after) fields
        (unitText locale v token ++ partsText locale v after) =
      some (recordOrdinal v fields token, partsText locale v after) := by
  have htoken := h.ordinalDate token (mem_tokens_of_suffix hsuffix)
  have hafter : after <:+ parts := (List.suffix_cons ..).trans hsuffix
  have hdot (hhead : (partsText locale v after).head? = some '.') : nextLiteral after = some '.' :=
    nextLiteral_of_head (fun _ => rfl) (hchain.suffix hafter)
      (fun other hother => beginsUnit_ordinalDate hlocale h.year_mem.1
        (h.ordinalDate other (tokens_subset_of_suffix hafter hother))) hhead
  cases token
  case year4 | month2 =>
    exact readToken?_unitText rfl (fun _ => h.year_mem) (fun hopen => by cases hopen) _ fields
  case monthName | monthShort =>
    refine readToken?_monthName hlocale (isForm_unitText hlocale) rfl ?_ hdot fields
    exact h.month_stops _ after rfl hsuffix
  case dayOrdinal => exact readToken?_ordinal (hstyle rfl) (h.day_stops after hsuffix) _ fields
  all_goals cases htoken

/-! ### A dot left over -/

/-- A literal that finds a dot before its own text ends before a dot again. -/
theorem readLiteral?_dot {literal rest t u t' : Text} (ht : Text.trimStart t = '.' :: u)
    (hu : Text.trimStart u = Text.trimStart (literal ++ rest))
    (hread : readLiteral? literal t = some t') :
    ∃ u', Text.trimStart t' = '.' :: u' ∧ Text.trimStart u' = Text.trimStart rest := by
  induction literal generalizing t u with
  | nil =>
    obtain rfl := Option.some.inj hread
    exact ⟨u, ht, hu⟩
  | cons c literal ih =>
    rw [List.cons_append] at hu
    rw [readLiteral?, ht] at hread
    cases hc : isBlank c with
    | true =>
      rw [if_pos hc] at hread
      rw [Text.trimStart_cons_blank hc] at hu
      exact ih (Text.trimStart_cons_of_not_blank rfl u) hu hread
    | false =>
      rw [Text.trimStart_cons_of_not_blank hc] at hu
      simp only [hc, Bool.false_eq_true, if_false] at hread
      split_ifs at hread with hlower
      -- The character that matched the dot is a dot, and now stands before the rest.
      obtain rfl := eq_dot_of_lowerChar (beq_iff_eq.1 hlower).symm
      exact ih hu rfl hread

/-- A token does not start with a dot. -/
theorem readToken?_dot (hlocale : locale.WellNamed) {token : DateToken}
    (htoken : token.isOrdinalDate) (next : Option Char) (fields : DateFields) (u : Text) :
    readToken? locale token next fields ('.' :: u) = none := by
  have hnumber (width : Nat) : number? width ('.' :: u) = none := by
    cases width <;> rfl
  have hmonth : readMonth? locale ('.' :: u) = none := by
    have hfound : ((monthForms locale).filterMap fun form =>
        (dropIgnoringCase? form.2 ('.' :: u)).map fun rest =>
          (Text.utf8Length form.2, form.1, rest)) = [] := by
      refine List.filterMap_eq_nil_iff.2 fun form hform => ?_
      rw [Option.map_eq_none_iff, Option.eq_none_iff_forall_not_mem]
      intro rest hrest
      obtain ⟨head, htext, hlen, hlower⟩ := exists_of_dropIgnoringCase? hrest
      obtain ⟨hne, -, hletters⟩ := hlocale.letters form hform
      cases head with
      | nil => exact absurd hlen.symm (Text.utf8Length_pos hne).ne'
      | cons c head =>
        obtain ⟨rfl, -⟩ := List.cons.inj htext
        have hnot : isAlphabetic '.' = false := not_isAlphabetic_of_lt (by decide)
        have hmem := mem_lower_of_not_isAlphabetic hnot (t := '.' :: head) List.mem_cons_self
        exact absurd (hletters '.' (hlower ▸ hmem)) (Bool.eq_false_iff.1 hnot)
    exact congrArg (fun found => (List.foldl _ none found).map Prod.snd) hfound
  cases token
  case year4 | month2 | dayOrdinal =>
    rw [readToken?, hnumber]
    rfl
  case monthName | monthShort =>
    rw [readToken?, hmonth]
    rfl
  all_goals cases htoken

/-- Parts that find a dot before their own text fail, or they leave a dot over. -/
theorem readParts?_dot (hlocale : locale.WellNamed) {parts : List FormatPart}
    (hordinal : ∀ token ∈ tokens parts, token.isOrdinalDate) {fields : DateFields} {t u : Text}
    (ht : Text.trimStart t = '.' :: u)
    (hu : Text.trimStart u = Text.trimStart (partsText locale v parts))
    {result : DateFields × Text} (hread : readParts? locale parts fields t = some result) :
    Text.trimStart result.2 ≠ [] := by
  induction parts generalizing t u with
  | nil =>
    obtain rfl := Option.some.inj hread
    rw [ht]
    exact List.cons_ne_nil _ _
  | cons part parts ih =>
    cases part with
    | literal text =>
      rw [readParts?] at hread
      obtain ⟨t', hliteral, hparts⟩ := Option.bind_eq_some_iff.1 hread
      obtain ⟨u', ht', hu'⟩ := readLiteral?_dot ht hu hliteral
      exact ih hordinal ht' hu' hparts
    | token token =>
      rw [readParts?, ht, readToken?_dot hlocale (hordinal token List.mem_cons_self)] at hread
      cases hread

/-! ### Fields -/

/-- The fields that some tokens record: those of the date that they write, and no others. -/
theorem foldl_recordOrdinal {ts : List DateToken} (hordinal : ∀ token ∈ ts, token.isOrdinalDate)
    (fields : DateFields) :
    ts.foldl (recordOrdinal v) fields =
      { fields with
        year := if .year4 ∈ ts then some v.date.year else fields.year
        month := if ∃ token ∈ ts, token.isMonth then some v.date.month else fields.month
        day := if .dayOrdinal ∈ ts then some v.date.day else fields.day } := by
  induction ts generalizing fields with
  | nil => simp
  | cons token ts ih =>
    obtain ⟨htoken, hordinal⟩ := List.forall_mem_cons.1 hordinal
    rw [List.foldl_cons, ih hordinal]
    cases token
    case year4 | month2 | monthName | monthShort | dayOrdinal =>
      simp [recordOrdinal, recordNamed, record, DateToken.isMonth, DateToken.isMonthName]
    all_goals cases htoken

/-! ### Whole texts -/

theorem parse?_eq_none_of_left {format : DatePattern} {now : DateTime} {input : Text}
    (h : ∀ result, readParts? locale format.parts {} input = some result →
      Text.trimStart result.2 ≠ []) : format.parse? locale now input = none := by
  unfold parse?
  cases hread : readParts? locale format.parts {} input with
  | none => rfl
  | some result => exact if_neg (by simpa using h result hread)

theorem parse?_render_withoutDot (hlocale : locale.WellNamed) (hstyle : locale.ordinal ≠ .dot)
    {format : Text} (h : WritesOrdinal locale v (ofText format).parts) (now : DateTime) :
    (ofText format).parse? locale now ((ofText format).render locale v) =
      some ⟨v.date, Time.midnight⟩ := by
  have hliteral (text : Text) : partText locale v (.literal text) = text := rfl
  obtain ⟨rest, hread, hblank⟩ := readParts?_write hliteral
    (fun token htoken => (beginsUnit_ordinalDate hlocale h.year_mem.1
      (h.ordinalDate token htoken)).trimStart_append)
    (fun token after hsuffix fields =>
      readToken?_ordinalDate hlocale h (isChain_scan format) hsuffix (fun _ => hstyle) fields)
    {} (t := (ofText format).render locale v) rfl
  rw [parse?, hread, foldl_recordOrdinal h.ordinalDate]
  simp only [hblank, List.isEmpty_nil, if_true, h.year, h.day, h.month]
  rw [resolve?_of_date rfl rfl rfl]
  rfl

theorem parse?_render_dot (hlocale : locale.WellNamed) (hstyle : locale.ordinal = .dot)
    {format : Text} (h : WritesOrdinal locale v (ofText format).parts) (now : DateTime) :
    (ofText format).parse? locale now ((ofText format).render locale v) = none := by
  obtain ⟨before, after, hparts, hfirst⟩ :=
    List.eq_append_cons_of_mem (mem_tokens_iff.1 h.day)
  have htokens : tokens (ofText format).parts =
      tokens before ++ tokens (.token .dayOrdinal :: after) := by
    rw [hparts, tokens, List.filterMap_append]
    rfl
  have hbegins (token : DateToken) (htoken : token ∈ tokens before) :
      BeginsUnit (partText locale v (.token token)) :=
    beginsUnit_ordinalDate hlocale h.year_mem.1
      (h.ordinalDate token (htokens ▸ List.mem_append_left _ htoken))
  have hbefore (token : DateToken) (between : List FormatPart)
      (hsuffix : .token token :: between <:+ before) (fields : DateFields) :
      readToken? locale token (nextLiteral (between ++ .token .dayOrdinal :: after)) fields
          (unitText locale v token ++
            partsText locale v (between ++ .token .dayOrdinal :: after)) =
        some (recordOrdinal v fields token,
          partsText locale v (between ++ .token .dayOrdinal :: after)) := by
    refine readToken?_ordinalDate hlocale h (isChain_scan format) ?_ (fun hday => ?_) fields
    · obtain ⟨earlier, rfl⟩ := hsuffix
      exact ⟨earlier, by rw [hparts, List.append_assoc]; rfl⟩
    · exact absurd (hday ▸ hsuffix.subset List.mem_cons_self) hfirst
  -- The parts before the first day are read; its dot is then found by those after it.
  have hliteral (text : Text) : partText locale v (.literal text) = text := rfl
  obtain ⟨rest, hread, hrest⟩ := readParts?_append hliteral (.token .dayOrdinal :: after)
    (fun token htoken => (hbegins token htoken).trimStart_append) hbefore {}
    (t := (ofText format).render locale v) (by rw [render, hparts])
  have hday : Text.trimStart rest =
      unitText locale v .dayOrdinal ++ partsText locale v after :=
    hrest.trans ((beginsUnit_ordinal locale v).trimStart_append _)
  have hlater (token : DateToken) (htoken : token ∈ tokens after) : token.isOrdinalDate :=
    h.ordinalDate token (htokens ▸ List.mem_append_right _ (List.mem_cons_of_mem _ htoken))
  refine parse?_eq_none_of_left fun result hresult => ?_
  rw [hparts, hread, readParts?, hday, readToken?_ordinalDot hstyle, Option.bind_some] at hresult
  exact readParts?_dot hlocale hlater
    (Text.trimStart_cons_of_not_blank rfl (partsText locale v after)) rfl hresult

/-- **A format with its day as an ordinal reads back the date it wrote**, in every built-in locale
and whatever the present is, unless ordinals of the language end in a dot; then it reads nothing
that it wrote. -/
theorem parse?_render_ordinal {format : Text} (hlocale : locale ∈ Locale.all)
    (h : WritesOrdinal locale v (ofText format).parts) (now : DateTime) :
    (ofText format).parse? locale now ((ofText format).render locale v) =
      if locale.ordinal = .dot then none else some ⟨v.date, Time.midnight⟩ := by
  have hwell := wellNamed_of_mem_all hlocale
  by_cases hstyle : locale.ordinal = .dot
  · rw [if_pos hstyle]
    exact parse?_render_dot hwell hstyle h now
  · rw [if_neg hstyle]
    exact parse?_render_withoutDot hwell hstyle h now

theorem parts_ordinalDate : (ofText "Do MMMM YYYY").parts =
    [.token .dayOrdinal, .literal [' '], .token .monthName, .literal [' '], .token .year4] := by
  cbv

theorem writesOrdinal_ordinalDate (locale : Locale) :
    WritesOrdinal locale julyEvening (ofText "Do MMMM YYYY").parts := by
  rw [parts_ordinalDate]
  refine ⟨by decide, by decide, by decide, by decide, by decide, ?_, ?_⟩
  -- The day is followed by the blank before the month, and the month by that before the year.
  · simp only [List.suffix_cons_iff, List.cons.injEq, FormatPart.token.injEq, reduceCtorEq,
      true_and, false_and, or_false, List.suffix_nil]
    rintro after rfl
    rfl
  · simp only [List.suffix_cons_iff, List.cons.injEq, FormatPart.token.injEq, reduceCtorEq,
      false_and, false_or, or_false, List.suffix_nil]
    rintro token after htoken (⟨rfl, rfl⟩ | ⟨rfl, rfl⟩ | ⟨rfl, rfl⟩)
    · cases htoken
    · have hblank : isAlphabetic ' ' = false := not_isAlphabetic_of_isBlank rfl
      have hhead : (partsText locale julyEvening [.literal [' '], .token .year4]).head? =
          some ' ' := rfl
      rw [hhead, Option.any_some, hblank]
      exact Bool.false_ne_true
    · cases htoken

/-- French marks the first day of a month alone, and German every day by a dot. -/
theorem parse?_render_firstOfJuly :
    Locale.french ∈ Locale.all ∧ Locale.german ∈ Locale.all ∧
      WritesOrdinal Locale.french julyEvening (ofText "Do MMMM YYYY").parts ∧
      WritesOrdinal Locale.german julyEvening (ofText "Do MMMM YYYY").parts ∧
      (ofText "Do MMMM YYYY").parse? Locale.french leapNight
          ((ofText "Do MMMM YYYY").render Locale.french julyEvening) =
        some ⟨julyEvening.date, Time.midnight⟩ ∧
      (ofText "Do MMMM YYYY").parse? Locale.german leapNight
          ((ofText "Do MMMM YYYY").render Locale.german julyEvening) = none := by
  have hfrench : Locale.french ∈ Locale.all := by simp [Locale.all]
  have hgerman : Locale.german ∈ Locale.all := by simp [Locale.all]
  have hwrites := writesOrdinal_ordinalDate
  exact ⟨hfrench, hgerman, hwrites _, hwrites _,
    parse?_render_ordinal hfrench (hwrites _) leapNight,
    parse?_render_ordinal hgerman (hwrites _) leapNight⟩

/-- The first of July is not read back in German. -/
theorem parse?_germanOrdinal :
    WritesOrdinal Locale.german julyEvening (ofText "Do MMMM YYYY").parts ∧
      (ofText "Do MMMM YYYY").render Locale.german julyEvening = "1. Juli 2024" ∧
      (ofText "Do MMMM YYYY").parse? Locale.german leapNight "1. Juli 2024" ≠
        some ⟨julyEvening.date, Time.midnight⟩ := by
  refine ⟨writesOrdinal_ordinalDate _, ?_, ?_⟩
  · rw [render, parts_ordinalDate]
    decide +kernel
  · rw [parse?, parts_ordinalDate]
    exact (by decide +kernel)

end DatePattern

end Playbill
