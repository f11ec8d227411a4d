import Playbill.Text.Basic

/-!
# Date formats

A date format is a text in which some letters stand for units of a date.

* `DateToken`: the units, each with the pattern that stands for it.
* `FormatPart`: a token or literal text.
* `DatePattern.ofText`: the parts of a format; a bracketed stretch is literal.
* `DatePattern.namesYear`: whether a format carries a year.
-/

namespace Playbill

/-- A unit of a date or time in one of its written shapes. -/
inductive DateToken
  | year4
  | year2
  | monthName
  | monthShort
  | month2
  | month
  | dayOrdinal
  | day2
  | day
  | weekdayName
  | weekdayShort
  | weekdayMin
  | hour24Padded
  | hour24
  | hour12Padded
  | hour12
  | minutePadded
  | minute
  | secondPadded
  | second
  | meridiemUpper
  | meridiemLower
  deriving DecidableEq

/-- The letters that stand for a unit. -/
def DateToken.pattern : DateToken → Text
  | year4 => ['Y', 'Y', 'Y', 'Y']
  | year2 => ['Y', 'Y']
  | monthName => ['M', 'M', 'M', 'M']
  | monthShort => ['M', 'M', 'M']
  | month2 => ['M', 'M']
  | month => ['M']
  | dayOrdinal => ['D', 'o']
  | day2 => ['D', 'D']
  | day => ['D']
  | weekdayName => ['d', 'd', 'd', 'd']
  | weekdayShort => ['d', 'd', 'd']
  | weekdayMin => ['d', 'd']
  | hour24Padded => ['H', 'H']
  | hour24 => ['H']
  | hour12Padded => ['h', 'h']
  | hour12 => ['h']
  | minutePadded => ['m', 'm']
  | minute => ['m']
  | secondPadded => ['s', 's']
  | second => ['s']
  | meridiemUpper => ['A']
  | meridiemLower => ['a']

/-- All tokens, those with longer patterns first. -/
def DateToken.all : List DateToken :=
  [.year4, .monthName, .weekdayName, .monthShort, .weekdayShort, .year2, .month2, .dayOrdinal,
    .day2, .weekdayMin, .hour24Padded, .hour12Padded, .minutePadded, .secondPadded, .month, .day,
    .hour24, .hour12, .minute, .second, .meridiemUpper, .meridiemLower]

/-- The token whose pattern starts the text, the longest one, and the text after it. -/
def DateToken.leading? (t : Text) : Option (DateToken × Text) :=
  DateToken.all.findSome? fun token =>
    (Text.dropLeading? token.pattern t).map fun rest => (token, rest)

/-- A token or literal text. -/
inductive FormatPart
  | token (token : DateToken)
  | literal (text : Text)
  deriving DecidableEq

/-- A format with its compiled parts. -/
structure DatePattern where
  source : Text
  parts : List FormatPart
  deriving DecidableEq

namespace DatePattern

/-- Puts a part in front; a literal joins the literal after it. -/
def consPart : FormatPart → List FormatPart → List FormatPart
  | .literal s, .literal t :: rest => .literal (s ++ t) :: rest
  | part, rest => part :: rest

/-- A bracketed stretch at the start of the text, without its brackets, and the text after it. -/
def bracketed? : Text → Option (Text × Text)
  | '[' :: rest =>
    match rest.dropWhile (· != ']') with
    | _ :: after => some (rest.takeWhile (· != ']'), after)
    | [] => none
  | _ => none

theorem length_dropLeading? {p t rest : Text} (h : Text.dropLeading? p t = some rest) :
    t.length = p.length + rest.length := by
  induction p generalizing t with
  | nil => simp_all [Text.dropLeading?]
  | cons c cs ih =>
    cases t with
    | nil => simp [Text.dropLeading?] at h
    | cons d ds =>
      simp only [Text.dropLeading?] at h
      split at h
      · have := ih h
        simp only [List.length_cons]
        omega
      · simp at h

theorem pattern_length_pos (token : DateToken) : 0 < token.pattern.length := by
  cases token <;> decide

theorem length_leading? {t rest : Text} {token : DateToken}
    (h : DateToken.leading? t = some (token, rest)) : rest.length < t.length := by
  obtain ⟨u, _, hu⟩ := List.exists_of_findSome?_eq_some h
  obtain ⟨r, hr, he⟩ := Option.map_eq_some_iff.1 hu
  have hlen := length_dropLeading? hr
  have hpos := pattern_length_pos u
  have : r = rest := congrArg Prod.snd he
  subst this
  omega

theorem length_bracketed? {t body rest : Text} (h : bracketed? t = some (body, rest)) :
    rest.length < t.length := by
  unfold bracketed? at h
  split at h
  · rename_i after
    split at h
    · rename_i d u hd
      have hle := (List.dropWhile_suffix (p := (· != ']')) (l := after)).length_le
      rw [hd] at hle
      simp only [Option.some.injEq, Prod.mk.injEq] at h
      obtain ⟨-, rfl⟩ := h
      simp only [List.length_cons] at hle ⊢
      omega
    · simp at h
  · simp at h

/-- The parts of a text: a bracketed stretch, else a token, else a literal character. -/
def scan (t : Text) : List FormatPart :=
  match t with
  | [] => []
  | c :: rest =>
    match _hb : bracketed? (c :: rest) with
    | some (body, after) => consPart (.literal body) (scan after)
    | none =>
      match _ht : DateToken.leading? (c :: rest) with
      | some (token, after) => .token token :: scan after
      | none => consPart (.literal [c]) (scan rest)
termination_by t.length
decreasing_by
  · exact length_bracketed? _hb
  · exact length_leading? _ht
  · simp

/-- A format compiled from its text. -/
def ofText (format : Text) : DatePattern :=
  ⟨format, scan format⟩

/-- Whether some token of the format is a year. -/
def namesYear (format : DatePattern) : Bool :=
  format.parts.any fun part => part == .token .year4 || part == .token .year2

end DatePattern

end Playbill
