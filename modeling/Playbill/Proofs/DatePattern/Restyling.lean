import Playbill.DatePattern.Reader
import Playbill.Proofs.DatePattern.MonthForms
import Playbill.Proofs.DatePattern.RoundTrip
import Playbill.Proofs.Text.Squeeze

/-!
# Restyled dates

Neither the case of ASCII letters nor the number and kind of blanks matter to a format.

* `readLiteral?_plain`, `number?_plain`, `dropIgnoringCase?_plain`, `readToken?_plain`: one part is
  read from the plain form of a text as from the text itself, and the plain form of the rest is left.
* `readParts?_plain`: so are all parts in order; `readParts?_trimStart`: blanks at the start are
  passed over.
* `parse?_of_plain_eq`, `parse?_restyled`: a restyled text is read as the same date.
-/

namespace Playbill.DatePattern

open Text

/-! ### Runs of characters -/

/-- A class of characters holds a letter in both cases or in neither, and no blanks. -/
structure IsCaseless (p : Char → Bool) : Prop where
  asciiLowerChar : ∀ c, p (asciiLowerChar c) = p c
  blank : ∀ c, isBlank c → p c = false

theorem isCaseless_isAsciiDigit : IsCaseless isAsciiDigit where
  asciiLowerChar := congr_asciiLowerChar isAsciiDigit (by decide)
  blank c hc := by
    cases hdigit : isAsciiDigit c with
    | false => rfl
    | true => rw [isBlank_of_isAsciiDigit hdigit] at hc; cases hc

theorem isCaseless_isAlphabetic : IsCaseless isAlphabetic where
  asciiLowerChar := isAlphabetic_asciiLowerChar
  blank _ hc := not_isAlphabetic_of_isBlank hc

/-- A character that is neither an ASCII letter nor a blank makes a class by itself. -/
theorem isCaseless_beq {d : Char}
    (hd : ∀ k < 26, (Char.ofNat (97 + k) == d) = (Char.ofNat (65 + k) == d))
    (hblank : isBlank d = false) : IsCaseless (· == d) where
  asciiLowerChar := congr_asciiLowerChar (· == d) hd
  blank c hc := by
    rw [beq_eq_false_iff_ne]
    rintro rfl
    rw [hblank] at hc
    cases hc

theorem IsCaseless.or {p q : Char → Bool} (hp : IsCaseless p) (hq : IsCaseless q) :
    IsCaseless fun c => p c || q c where
  asciiLowerChar c := by rw [hp.asciiLowerChar, hq.asciiLowerChar]
  blank c hc := by rw [hp.blank c hc, hq.blank c hc]; rfl

variable {p : Char → Bool}

theorem head?_plain (hp : IsCaseless p) (t : Text) : (plain t).head?.any p = t.head?.any p := by
  rw [plain, any_head?_squeeze hp.blank]
  cases t with
  | nil => rfl
  | cons c t => exact hp.asciiLowerChar c

/-- A run of characters ends in the plain form where it ends in the text. -/
theorem dropWhile_plain (hp : IsCaseless p) (t : Text) :
    (plain t).dropWhile p = plain (t.dropWhile p) := by
  induction t with
  | nil => rfl
  | cons c t ih =>
    cases hc : p c with
    | true =>
      have hblank : isBlank c = false := by
        rw [Bool.eq_false_iff]
        intro hblank
        rw [hp.blank c hblank] at hc
        cases hc
      rw [plain_cons_of_not_blank hblank, List.dropWhile_cons_of_pos ((hp.asciiLowerChar c).trans hc),
        List.dropWhile_cons_of_pos hc, ih]
    | false =>
      have hhead : ¬ (plain (c :: t)).head?.any p := by
        rw [head?_plain hp, List.head?_cons, Option.any_some, hc]
        exact Bool.false_ne_true
      rw [List.dropWhile_cons_of_neg (Bool.eq_false_iff.1 hc)]
      have hnone : ∀ d ∈ ([] : Text), p d := fun d hd => (List.not_mem_nil hd).elim
      exact (takeWhile_dropWhile_append hnone hhead).2

theorem isEmpty_takeWhile_eq (t : Text) : (t.takeWhile p).isEmpty = !t.head?.any p := by
  cases t with
  | nil => rfl
  | cons c t =>
    rw [List.takeWhile_cons, List.head?_cons, Option.any_some]
    cases p c <;> rfl

/-- Digits have no case, so that a number has the same digits in the plain form. -/
theorem takeWhile_take_plain (width : Nat) (t : Text) :
    ((plain t).take width).takeWhile isAsciiDigit = (t.take width).takeWhile isAsciiDigit := by
  induction t generalizing width with
  | nil => rfl
  | cons c t ih =>
    cases width with
    | zero => rfl
    | succ width =>
      cases hc : isAsciiDigit c with
      | true =>
        have hlower : asciiLowerChar c = c := by
          refine asciiLowerChar_of_not_isAlphabetic (Bool.eq_false_iff.2 fun hletter => ?_)
          rw [isAsciiDigit_of_isAlphabetic hletter] at hc
          cases hc
        rw [plain_cons_of_not_blank (isBlank_of_isAsciiDigit hc), hlower, List.take_succ_cons,
          List.take_succ_cons, List.takeWhile_cons_of_pos hc, List.takeWhile_cons_of_pos hc, ih]
      | false =>
        have hhead : ¬ (plain (c :: t)).head?.any isAsciiDigit := by
          rw [head?_plain isCaseless_isAsciiDigit, List.head?_cons, Option.any_some, hc]
          exact Bool.false_ne_true
        have hnil : ((plain (c :: t)).take (width + 1)).takeWhile isAsciiDigit = [] := by
          rw [← List.isEmpty_iff, isEmpty_takeWhile_eq, List.head?_take]
          simpa using hhead
        rw [hnil, List.take_succ_cons, List.takeWhile_cons_of_neg (Bool.eq_false_iff.1 hc)]

/-- What follows a beginning without blanks is the plain form of what follows it in the text. -/
theorem plain_append_of_not_blank {head : Text} (h : ∀ c ∈ head, isBlank c = false) (t : Text) :
    plain (head ++ t) = asciiLower head ++ plain t := by
  induction head with
  | nil => rfl
  | cons c head ih =>
    rw [List.forall_mem_cons] at h
    rw [List.cons_append, plain_cons_of_not_blank h.1, ih h.2]
    rfl

/-- A beginning of the plain form without blanks is that of a beginning of the text. -/
theorem exists_of_plain_eq_append {t head rest : Text} (h : plain t = head ++ rest)
    (hhead : ∀ c ∈ head, isBlank c = false) :
    ∃ head' rest', t = head' ++ rest' ∧ asciiLower head' = head ∧ plain rest' = rest := by
  induction head generalizing t with
  | nil => exact ⟨[], t, rfl, rfl, h⟩
  | cons d head ih =>
    rw [List.forall_mem_cons] at hhead
    cases t with
    | nil => cases h
    | cons c t =>
      cases hc : isBlank c with
      | true =>
        have hblank := head?_gap (plain t)
        rw [plain_cons_blank hc] at h
        rw [h, List.cons_append, List.head?_cons, Option.all_some, hhead.1] at hblank
        cases hblank
      | false =>
        rw [plain_cons_of_not_blank hc, List.cons_append] at h
        obtain ⟨rfl, hrest⟩ := List.cons.inj h
        obtain ⟨head', rest', rfl, rfl, rfl⟩ := ih hrest hhead.2
        exact ⟨c :: head', rest', rfl, rfl, rfl⟩

/-! ### Parts -/

theorem readLiteral?_plain (literal t : Text) :
    readLiteral? literal (plain t) = (readLiteral? literal t).map plain := by
  induction literal generalizing t with
  | nil => rfl
  | cons expected literal ih =>
    rw [readLiteral?, readLiteral?, trimStart_plain]
    split_ifs with hblank
    · exact ih (trimStart t)
    · cases htrim : trimStart t with
      | nil => rfl
      | cons c rest =>
        rw [plain_cons_of_not_blank (isBlank_of_trimStart htrim)]
        simp only [lowerChar_asciiLowerChar]
        split_ifs
        · exact ih rest
        · rfl

theorem number?_plain (width : Nat) (t : Text) :
    number? width (plain t) =
      (number? width t).map fun number => (number.1, number.2.1, plain number.2.2) := by
  have hprefix : (t.take width).takeWhile isAsciiDigit <+: t :=
    (List.takeWhile_prefix _).trans (List.take_prefix _ _)
  have hdigits : ∀ c ∈ (t.take width).takeWhile isAsciiDigit, isBlank c = false :=
    fun c hc => isBlank_of_isAsciiDigit (List.mem_takeWhile_imp hc)
  have hdrop : (plain t).drop ((t.take width).takeWhile isAsciiDigit).length =
      plain (t.drop ((t.take width).takeWhile isAsciiDigit).length) := by
    have hplain := plain_append_of_not_blank hdigits
      (t.drop ((t.take width).takeWhile isAsciiDigit).length)
    rw [List.prefix_iff_eq_append.1 hprefix] at hplain
    rw [hplain]
    exact List.drop_left' (List.length_map _)
  rw [number?, number?, takeWhile_take_plain]
  simp only [hdrop]
  split_ifs <;> rfl

theorem dropDot_plain (next : Option Char) (t : Text) :
    dropDot next (plain t) = plain (dropDot next t) := by
  have hother {u : Text} (hu : u.head? ≠ some '.') : dropDot next u = u := by
    unfold dropDot
    split
    · exact absurd rfl hu
    · rfl
  by_cases hdot : t.head? = some '.'
  · obtain ⟨rest, rfl⟩ := List.head?_eq_some_iff.1 hdot
    have hplain : plain ('.' :: rest) = '.' :: plain rest := plain_cons_of_not_blank rfl rest
    rw [hplain, dropDot, dropDot, ← hplain]
    split_ifs <;> rfl
  · have hhead := head?_plain (isCaseless_beq (d := '.') (by decide) rfl) t
    have hplain : (plain t).head? ≠ some '.' := fun hplain => by
      rw [hplain, Option.any_some, beq_self_eq_true, eq_comm, Option.any_eq_true] at hhead
      obtain ⟨c, hc, hbeq⟩ := hhead
      exact hdot (hc.trans (congrArg some (beq_iff_eq.1 hbeq)))
    rw [hother hdot, hother hplain]

/-- A name without blanks is found at the start of the plain form as it is at that of the text. -/
theorem dropIgnoringCase?_plain {name : Text} (hname : ∀ c ∈ name, isBlank c = false)
    (t : Text) : dropIgnoringCase? name (plain t) = (dropIgnoringCase? name t).map plain := by
  have hblank {head : Text} (hlower : lower head = lower name) : ∀ c ∈ head, isBlank c = false :=
    fun c hc => Bool.eq_false_iff.2 fun hblank => by
      have hletter := not_isAlphabetic_of_isBlank hblank
      have hmem : c ∈ lower name := hlower ▸ mem_lower_of_not_isAlphabetic hletter hc
      rw [not_isBlank_of_mem_lowerAfter hname [] c hmem] at hblank
      cases hblank
  have hfound {head rest : Text} (hlength : utf8Length head = utf8Length name)
      (hlower : lower head = lower name) : dropIgnoringCase? name (head ++ rest) = some rest := by
    rw [dropIgnoringCase?, takeBytes?_eq_some_iff.2 ⟨rfl, hlength⟩]
    simp only [hlower, beq_self_eq_true, if_true]
  cases hread : dropIgnoringCase? name t with
  | some rest =>
    obtain ⟨head, rfl, hlength, hlower⟩ := exists_of_dropIgnoringCase? hread
    rw [plain_append_of_not_blank (hblank hlower), hfound]
    · rfl
    · rw [utf8Length_asciiLower, hlength]
    · rw [lower_asciiLower, hlower]
  | none =>
    cases hplain : dropIgnoringCase? name (plain t) with
    | none => rfl
    | some rest =>
      obtain ⟨head, htext, hlength, hlower⟩ := exists_of_dropIgnoringCase? hplain
      obtain ⟨head', rest', rfl, rfl, rfl⟩ := exists_of_plain_eq_append htext (hblank hlower)
      rw [utf8Length_asciiLower] at hlength
      rw [lower_asciiLower] at hlower
      rw [hfound hlength hlower] at hread
      cases hread

/-- A form of a month that starts a text: its length in bytes, the month, and the text after it. -/
abbrev Find := Nat × Nat × Text

/-- The forms of months that start a text. -/
def finds (locale : Locale) (t : Text) : List Find :=
  (monthForms locale).filterMap fun form =>
    (dropIgnoringCase? form.2 t).map fun rest => (utf8Length form.2, form.1, rest)

/-- The longer of the best find so far and the next one, and of two as long the next one. -/
def longerFind (best : Option Find) (next : Find) : Option Find :=
  match best with
  | some b => if b.1 ≤ next.1 then some next else best
  | none => some next

theorem readMonth?_eq (locale : Locale) (t : Text) :
    readMonth? locale t = ((finds locale t).foldl longerFind none).map Prod.snd :=
  rfl

/-- A find with the plain form of the text after it. -/
def plainFind (find : Find) : Find :=
  (find.1, find.2.1, plain find.2.2)

theorem finds_plain {locale : Locale} (hlocale : locale.WellNamed) (t : Text) :
    finds locale (plain t) = (finds locale t).map plainFind := by
  unfold finds
  rw [List.map_filterMap]
  refine List.filterMap_congr fun form hform => ?_
  have hname : ∀ c ∈ form.2, isBlank c = false :=
    fun c hc => isBlank_of_isAlphabetic ((hlocale.letters form hform).2.1 c hc)
  rw [dropIgnoringCase?_plain hname]
  cases dropIgnoringCase? form.2 t <;> rfl

theorem longerFind_plainFind (best : Option Find) (next : Find) :
    longerFind (best.map plainFind) (plainFind next) = (longerFind best next).map plainFind := by
  cases best with
  | none => rfl
  | some b =>
    change (if b.1 ≤ next.1 then some (plainFind next) else some (plainFind b)) =
      Option.map plainFind (if b.1 ≤ next.1 then some next else some b)
    split_ifs <;> rfl

theorem readMonth?_plain {locale : Locale} (hlocale : locale.WellNamed) (t : Text) :
    readMonth? locale (plain t) =
      (readMonth? locale t).map fun found => (found.1, plain found.2) := by
  have hlongest : (finds locale (plain t)).foldl longerFind none =
      ((finds locale t).foldl longerFind none).map plainFind := by
    rw [finds_plain hlocale, List.foldl_map]
    change (finds locale t).foldl (fun best next => longerFind best (plainFind next))
      (Option.map plainFind none) = _
    exact List.foldl_hom (Option.map plainFind) longerFind_plainFind
  rw [readMonth?_eq, readMonth?_eq, hlongest, Option.map_map, Option.map_map]
  rfl

theorem readMeridiem?_plain (t : Text) :
    readMeridiem? (plain t) = (readMeridiem? t).map fun found => (found.1, plain found.2) := by
  have hblank : (["a.m.", "p.m.", "am", "pm"] : List Text).all (·.all (!isBlank ·)) := by decide
  have hmarker : ∀ marker ∈ (["a.m.", "p.m.", "am", "pm"] : List Text),
      dropIgnoringCase? marker (plain t) = (dropIgnoringCase? marker t).map plain := by
    intro marker hmem
    have hname := List.all_eq_true.1 (List.all_eq_true.1 hblank marker hmem)
    exact dropIgnoringCase?_plain (fun c hc => by simpa using hname c hc) t
  simp only [List.forall_mem_cons] at hmarker
  unfold readMeridiem?
  simp only [List.findSome?_cons, List.findSome?_nil, hmarker]
  cases dropIgnoringCase? "a.m." t with
  | some rest => rfl
  | none =>
    cases dropIgnoringCase? "p.m." t with
    | some rest => rfl
    | none =>
      cases dropIgnoringCase? "am" t with
      | some rest => rfl
      | none => cases dropIgnoringCase? "pm" t <;> rfl

variable {locale : Locale}

/-- A token reads the plain form of a text as the text itself. -/
theorem readToken?_plain (hlocale : locale.WellNamed) (token : DateToken) (next : Option Char)
    (fields : DateFields) (t : Text) :
    readToken? locale token next fields (plain t) =
      (readToken? locale token next fields t).map fun read => (read.1, plain read.2) := by
  cases token
  case year4 | year2 | month2 | month | day2 | day | hour24Padded | hour24 | hour12Padded | hour12 |
      minutePadded | minute | secondPadded | second =>
    rw [readToken?, readToken?, number?_plain, Option.map_map, Option.map_map]
    rfl
  case dayOrdinal =>
    have hdrop := dropWhile_plain
      (isCaseless_isAlphabetic.or (isCaseless_beq (d := 'º') (by decide) rfl))
    rw [readToken?, readToken?, number?_plain, Option.map_map, Option.map_map]
    simp only [Function.comp_def, hdrop]
  case monthName | monthShort =>
    rw [readToken?, readToken?, readMonth?_plain hlocale, Option.map_map, Option.map_map]
    simp only [Function.comp_def, dropDot_plain]
  case weekdayName | weekdayShort | weekdayMin =>
    have hclass := isCaseless_isAlphabetic.or (isCaseless_beq (d := '-') (by decide) rfl)
    rw [readToken?, readToken?]
    simp only [isEmpty_takeWhile_eq, head?_plain hclass, dropWhile_plain hclass, dropDot_plain]
    split_ifs <;> rfl
  case meridiemUpper | meridiemLower =>
    rw [readToken?, readToken?, readMeridiem?_plain, Option.map_map, Option.map_map]
    rfl

/-- All parts read the plain form of a text as the text itself. -/
theorem readParts?_plain (hlocale : locale.WellNamed) (parts : List FormatPart)
    (fields : DateFields) (t : Text) :
    readParts? locale parts fields (plain t) =
      (readParts? locale parts fields t).map fun read => (read.1, plain read.2) := by
  induction parts generalizing fields t with
  | nil => rfl
  | cons part parts ih =>
    cases part with
    | literal literal =>
      rw [readParts?, readParts?, readLiteral?_plain]
      cases readLiteral? literal t with
      | none => rfl
      | some rest => exact ih fields rest
    | token token =>
      rw [readParts?, readParts?, trimStart_plain, readToken?_plain hlocale]
      cases readToken? locale token (nextLiteral parts) fields (trimStart t) with
      | none => rfl
      | some read => exact ih read.1 read.2

theorem readLiteral?_trimStart (literal t : Text) :
    (readLiteral? literal (trimStart t)).map trimStart =
      (readLiteral? literal t).map trimStart := by
  cases literal with
  | nil => exact congrArg some (trimStart_trimStart t)
  | cons c literal => rw [readLiteral?, readLiteral?, trimStart_trimStart]

/-- Blanks at the start of a text make no difference to the parts, nor to the rest but for blanks at
its own start. -/
theorem readParts?_trimStart (parts : List FormatPart) (fields : DateFields) {t u : Text}
    (h : trimStart t = trimStart u) :
    (readParts? locale parts fields t).map (fun read => (read.1, trimStart read.2)) =
      (readParts? locale parts fields u).map fun read => (read.1, trimStart read.2) := by
  induction parts generalizing fields t u with
  | nil => exact congrArg (fun rest => some (fields, rest)) h
  | cons part parts ih =>
    cases part with
    | literal literal =>
      have hrest := (readLiteral?_trimStart literal t).symm.trans
        ((congrArg (fun u => (readLiteral? literal u).map trimStart) h).trans
          (readLiteral?_trimStart literal u))
      rw [readParts?, readParts?]
      cases ht : readLiteral? literal t with
      | none =>
        cases hu : readLiteral? literal u with
        | none => rfl
        | some rest => rw [ht, hu] at hrest; cases hrest
      | some rest =>
        cases hu : readLiteral? literal u with
        | none => rw [ht, hu] at hrest; cases hrest
        | some rest' =>
          rw [ht, hu] at hrest
          exact ih fields (Option.some.inj hrest)
    | token token => rw [readParts?, readParts?, h]

/-! ### Whole texts -/

theorem parse?_of_trimStart_eq (format : DatePattern) (locale : Locale) (now : DateTime)
    {t u : Text} (h : trimStart t = trimStart u) :
    format.parse? locale now t = format.parse? locale now u := by
  have hparts := @readParts?_trimStart locale format.parts {} t u h
  unfold parse?
  cases ht : readParts? locale format.parts {} t with
  | none =>
    cases hu : readParts? locale format.parts {} u with
    | none => rfl
    | some read => rw [ht, hu] at hparts; cases hparts
  | some read =>
    cases hu : readParts? locale format.parts {} u with
    | none => rw [ht, hu] at hparts; cases hparts
    | some read' =>
      rw [ht, hu] at hparts
      obtain ⟨hfields, hrest⟩ := Prod.mk.inj (Option.some.inj hparts)
      simp only [hfields, hrest]

theorem parse?_plain (format : DatePattern) (hlocale : locale.WellNamed) (now : DateTime)
    (t : Text) : format.parse? locale now (plain t) = format.parse? locale now t := by
  unfold parse?
  rw [readParts?_plain hlocale]
  cases readParts? locale format.parts {} t with
  | none => rfl
  | some read =>
    have hrest : (trimStart (plain read.2)).isEmpty = (trimStart read.2).isEmpty := by
      rw [trimStart_plain]
      cases htrim : trimStart read.2 with
      | nil => rfl
      | cons c rest => rw [plain_cons_of_not_blank (isBlank_of_trimStart htrim)]; rfl
    simp only [Option.map_some, hrest]

/-- Texts with the same plain form are read as the same date, blanks at the start aside. -/
theorem parse?_of_plain_eq (format : DatePattern) (hlocale : locale.WellNamed) (now : DateTime)
    {t u : Text} (h : trimStart (plain t) = trimStart (plain u)) :
    format.parse? locale now t = format.parse? locale now u := by
  rw [← parse?_plain format hlocale now t, parse?_of_trimStart_eq format locale now h,
    parse?_plain format hlocale now u]

/-- **Strict reading ignores the case of ASCII letters and the shape of blanks**: in every built-in
locale and whatever the present is, a format reads a text and every restyled one alike. -/
theorem parse?_restyled (format : Text) (hlocale : locale ∈ Locale.all) (now : DateTime)
    {t u : Text} (h : Restyled t u) :
    (ofText format).parse? locale now t = (ofText format).parse? locale now u :=
  parse?_of_plain_eq _ (wellNamed_of_mem_all hlocale) now h.plain_eq

theorem parts_dayMonthShort : (ofText "D. MMM").parts =
    [.token .day, .literal ['.', ' '], .token .monthShort] := by
  cbv

theorem readMonth?_may : readMonth? Locale.german "mai" = some (5, []) := by
  unfold Locale.german
  -- The kernel takes long to decode a string, so that the words are cut from lists of characters.
  repeat rw [names_ofList]
  decide +kernel

-- Stated for any locale, since the kernel would look into the names of the German one.
theorem parse?_firstOfMay (hmonth : readMonth? locale "mai" = some (5, [])) :
    (ofText "D. MMM").parse? locale leapNight "1. mai" =
      some ⟨⟨2000, 5, 1, by decide, by decide, by decide⟩, Time.midnight⟩ := by
  have htoken (fields : DateFields) : readToken? locale .monthShort none fields "mai" =
      some ({ fields with month := some 5 }, []) := by
    rw [readToken?, hmonth]
    rfl
  have hparts : readParts? locale [.token .day, .literal ['.', ' '], .token .monthShort] {}
      "1. mai" = some ({ day := some 1, month := some 5 }, []) :=
    (congrArg (Option.bind · _) (htoken { day := some 1 })).trans rfl
  rw [parse?, parts_dayMonthShort, hparts]
  rfl

/-- A month with a capital, after tabulators instead of a space, and blanks at both ends. -/
theorem parse?_restyled_may :
    Locale.german ∈ Locale.all ∧ Restyled "1. mai" "\n1.\t\tMai " ∧
      (ofText "D. MMM").parse? Locale.german leapNight "1. mai" =
        (ofText "D. MMM").parse? Locale.german leapNight "\n1.\t\tMai " ∧
      ((ofText "D. MMM").parse? Locale.german leapNight "1. mai").map DateTime.date =
        some ⟨2000, 5, 1, by decide, by decide, by decide⟩ := by
  have hlocale : Locale.german ∈ Locale.all := by simp [Locale.all]
  have hblank {c : Char} (hc : isBlank c) : ∀ d ∈ [c], isBlank d := List.forall_mem_singleton.2 hc
  have hstart : Restyling "1. mai" "\n1. mai" := .padStart (hblank (c := '\n') rfl) _
  have hspace : [' '] ≠ [] ∧ ∀ c ∈ [' '], isBlank c := ⟨nofun, hblank rfl⟩
  have htabs : ['\t', '\t'] ≠ [] ∧ ∀ c ∈ ['\t', '\t'], isBlank c :=
    ⟨nofun, List.forall_mem_cons.2 ⟨rfl, hblank rfl⟩⟩
  have hgap : Restyling "\n1. mai" "\n1.\t\tmai" := .respace hspace htabs "\n1." "mai"
  have hcase : Restyling "\n1.\t\tmai" "\n1.\t\tMai" :=
    .recase (c := 'm') (d := 'M') rfl "\n1.\t\t" "ai"
  have hend : Restyling "\n1.\t\tMai" "\n1.\t\tMai " := .padEnd (hblank (c := ' ') rfl) _
  have hrestyled : Restyled "1. mai" "\n1.\t\tMai " :=
    .trans _ _ _ (.rel _ _ hstart) (.trans _ _ _ (.rel _ _ hgap)
      (.trans _ _ _ (.rel _ _ hcase) (.rel _ _ hend)))
  refine ⟨hlocale, hrestyled, parse?_restyled "D. MMM" hlocale leapNight hrestyled, ?_⟩
  rw [parse?_firstOfMay readMonth?_may]
  rfl

end Playbill.DatePattern
