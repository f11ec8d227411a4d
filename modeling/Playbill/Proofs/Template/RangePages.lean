import Playbill.Proofs.Template.PageRange

/-!
# The pages of a range

Which pages a template has: the numbers of its first range, counted up, or the texts of its list,
and no more than a cap allows.

* `Cap.pages`: how many pages a cap allows.
* `PageRange.countUp`: numbers counted in 64-bit words; `map_toNat_countUp`: the count never wraps
  round.
* `PageRange.IsDecimal`: a number in decimal with blanks around it; `unsigned?_eq_ite`: it is read
  if it is a word.
* `Template.pages?_written`: the pages of a range that is written after a text without one.
-/

namespace Playbill

/-- The number of pages that a cap allows. -/
def Cap.pages (cap : Cap) : Nat :=
  match cap.limit with
  | some bound => min pageLimit bound
  | none => pageLimit

theorem Cap.getD_clamp_pageLimit (cap : Cap) :
    (cap.clamp (some pageLimit)).getD pageLimit = cap.pages := by
  obtain ⟨_ | bound⟩ := cap <;> rfl

/-! ### Numbers -/

/-- A text of digits is read if its number is a word. -/
theorem Text.unsigned?_eq_ite {digits : Text} (hne : digits ≠ [])
    (hdigits : ∀ c ∈ digits, isAsciiDigit c) :
    unsigned? digits =
      if natOfDigits digits < wordLimit then some (natOfDigits digits) else none := by
  by_cases hword : natOfDigits digits < wordLimit
  · rw [if_pos hword, unsigned?_eq_some_iff]
    exact ⟨digits, hne, hdigits, .inl rfl, rfl, hword⟩
  · rw [if_neg hword, Option.eq_none_iff_forall_ne_some]
    intro n hn
    obtain ⟨rest, -, -, rfl | rfl, rfl, hlt⟩ := unsigned?_eq_some_iff.1 hn
    · exact hword hlt
    · cases hdigits '+' List.mem_cons_self

/-- A digit of ASCII is one of the digits that a range may hold. -/
theorem isWordDigit_of_isAsciiDigit {c : Char} (hc : isAsciiDigit c) : isWordDigit c := by
  have hbounds := Text.toNat_of_isAsciiDigit hc
  have hrange : inRanges [(48, 57)] c := by
    simp [inRanges, hbounds]
  have hrecent : isRecent c = false := inRanges_eq_false_of_disjoint (by decide +kernel) hrange
  have hdigit : isDecimalDigit c := by
    rw [isDecimalDigit, inRanges, decimalRanges, List.any_cons]
    simp [hbounds]
  rw [isWordDigit, hdigit, hrecent]
  rfl

namespace PageRange

/-- A number in decimal, with blanks around it. -/
def IsDecimal (n : Nat) (written : Text) : Prop :=
  ∃ digits before after : Text, digits ≠ [] ∧ (∀ c ∈ digits, isAsciiDigit c) ∧
    Text.natOfDigits digits = n ∧ (∀ c ∈ before, isBlank c) ∧ (∀ c ∈ after, isBlank c) ∧
    written = before ++ digits ++ after

theorem IsDecimal.exists_isNumeral {n : Nat} {written : Text} (h : IsDecimal n written) :
    ∃ digits, IsNumeral digits written ∧
      Text.unsigned? digits = if n < wordLimit then some n else none := by
  obtain ⟨digits, before, after, hne, hdigits, rfl, hbefore, hafter, rfl⟩ := h
  refine ⟨digits, ⟨hne, ?_, before, after, hbefore, hafter, rfl⟩, ?_⟩
  · exact fun c hc => isWordDigit_of_isAsciiDigit (hdigits c hc)
  · exact Text.unsigned?_eq_ite hne hdigits

theorem isDecimal_ofNat (n : Nat) {before after : Text} (hbefore : ∀ c ∈ before, isBlank c)
    (hafter : ∀ c ∈ after, isBlank c) : IsDecimal n (before ++ Text.ofNat n ++ after) :=
  ⟨Text.ofNat n, before, after, Text.ofNat_ne_nil n, fun _ => Text.isAsciiDigit_of_mem_ofNat,
    Text.natOfDigits_ofNat n, hbefore, hafter, rfl⟩

/-- At most so many words, counted up from one to another.  After the largest word a count would
start again at zero. -/
def countUp : Nat → UInt64 → UInt64 → List UInt64
  | 0, _, _ => []
  | limit + 1, first, last =>
    if first < last then first :: countUp limit (first + 1) last
    else if first = last then [first] else []

/-- The count never wraps round, not even up to the largest word. -/
theorem map_toNat_countUp (limit : Nat) (first last : UInt64) :
    (countUp limit first last).map UInt64.toNat =
      List.range' first.toNat (min limit (last.toNat + 1 - first.toNat)) := by
  induction limit generalizing first with
  | zero => simp [countUp]
  | succ limit ih =>
    by_cases hlt : first < last
    · rw [UInt64.lt_iff_toNat_lt] at hlt
      have hbound := last.toNat_lt
      have hnext : (first + 1).toNat = first.toNat + 1 := by
        rw [UInt64.toNat_add, UInt64.toNat_one]
        omega
      have hcount : min (limit + 1) (last.toNat + 1 - first.toNat) =
          min limit (last.toNat + 1 - (first.toNat + 1)) + 1 := by
        omega
      rw [countUp, if_pos (UInt64.lt_iff_toNat_lt.2 hlt), List.map_cons, ih, hnext, hcount,
        List.range'_succ]
    · by_cases heq : first = last
      · subst heq
        simp [countUp]
      · have hgt : last.toNat + 1 - first.toNat = 0 := by
          rw [UInt64.lt_iff_toNat_lt] at hlt
          rw [← UInt64.toNat_inj] at heq
          omega
        simp [countUp, hlt, heq, hgt]

theorem pages?_span {first last : Text} {a b : Nat} (hfirst : Text.unsigned? first = some a)
    (hlast : Text.unsigned? last = some b) (limit : Nat) :
    (span first last).pages? limit =
      some ((List.range' a (min limit (b + 1 - a))).map Text.ofNat) := by
  simp [pages?, hfirst, hlast, List.range'_eq_map_range]

theorem pages?_span_eq_none {first last : Text}
    (h : Text.unsigned? first = none ∨ Text.unsigned? last = none) (limit : Nat) :
    (span first last).pages? limit = none := by
  rcases h with h | h
  · simp [pages?, h]
  · cases hfirst : Text.unsigned? first <;> simp [pages?, h, hfirst]

end PageRange

namespace Template

open PageRange (FirstOf IsDecimal countUp isDecimal_ofNat map_toNat_countUp
  not_at_of_not_isInfix opening pages?_span pages?_span_eq_none written)

/-- The pages of a template are those of its first range. -/
theorem pages?_of_firstOf {t before inner after : Text} {range : PageRange}
    (h : FirstOf t range before inner after) (cap : Cap) :
    pages? t cap = range.pages? cap.pages := by
  rw [pages?, h.first?_eq, Option.bind_some, Cap.getD_clamp_pageLimit]

/-- A range that is written after a text without the opening marks is the first one. -/
theorem firstOf_append {before inner : Text} {range : PageRange} (hbefore : ¬ opening <:+: before)
    (hspells : range.Spells inner) (after : Text) :
    FirstOf (before ++ written inner ++ after) range before inner after where
  spells := hspells
  text := rfl
  first i hi := by
    rw [List.append_assoc]
    exact not_at_of_not_isInfix hbefore rfl hi

/-- **The pages of a written range.**  After a text without the opening marks, and whatever comes
after it, a range of two words has the numbers from the first to the last, as many as are allowed,
and counting them in words never wraps round; with a number that is no word it has no pages at all;
and a list has the texts between its commas, trimmed, as many as are allowed. -/
theorem pages?_written {before : Text} (hbefore : ¬ opening <:+: before) (after : Text)
    (cap : Cap) :
    (∀ (first last : UInt64) (u v : Text),
      IsDecimal first.toNat u → IsDecimal last.toNat v →
        pages? (before ++ written (u ++ ',' :: v) ++ after) cap =
            some ((countUp cap.pages first last).map fun n => Text.ofNat n.toNat) ∧
          (countUp cap.pages first last).map UInt64.toNat =
            List.range' first.toNat (min cap.pages (last.toNat + 1 - first.toNat))) ∧
      (∀ (first last : Nat) (u v : Text), IsDecimal first u → IsDecimal last v →
        wordLimit ≤ first ∨ wordLimit ≤ last →
          pages? (before ++ written (u ++ ',' :: v) ++ after) cap = none) ∧
      ∀ body : Text, ']' ∉ body → ∃ parts : List Text,
        (∀ other, Text.IsCut ',' body other ↔ other = parts) ∧
          pages? (before ++ written ('[' :: body ++ [']']) ++ after) cap =
            some ((parts.map Text.trim).take cap.pages) := by
  refine ⟨?_, ?_, ?_⟩
  · intro first last u v hu hv
    obtain ⟨u', hu', hfirst⟩ := hu.exists_isNumeral
    obtain ⟨v', hv', hlast⟩ := hv.exists_isNumeral
    have hword (n : UInt64) : n.toNat < wordLimit := n.toNat_lt
    rw [if_pos (hword first)] at hfirst
    rw [if_pos (hword last)] at hlast
    have hcount := map_toNat_countUp cap.pages first last
    refine ⟨?_, hcount⟩
    rw [pages?_of_firstOf (firstOf_append hbefore (.span hu' hv') after), pages?_span hfirst hlast,
      ← hcount, List.map_map]
    rfl
  · intro first last u v hu hv hlarge
    obtain ⟨u', hu', hfirst⟩ := hu.exists_isNumeral
    obtain ⟨v', hv', hlast⟩ := hv.exists_isNumeral
    rw [pages?_of_firstOf (firstOf_append hbefore (.span hu' hv') after)]
    apply pages?_span_eq_none
    rcases hlarge with hlarge | hlarge
    · exact .inl (hfirst.trans (if_neg (by omega)))
    · exact .inr (hlast.trans (if_neg (by omega)))
  · intro body hbody
    refine ⟨Text.pieces ',' body, fun other => Text.isCut_iff, ?_⟩
    rw [pages?_of_firstOf (firstOf_append hbefore (.list hbody) after)]
    rfl

/-- The two largest words, a number that is no word, and a list, each after something that only
begins like a range. -/
theorem pages?_written_largestWords :
    ¬ opening <:+: "/:page".toList ∧
      pages? "/:page:page( 18446744073709551614 ,18446744073709551615):&:page(1,2):".toList
          ⟨some 3⟩ =
        some ["18446744073709551614".toList, "18446744073709551615".toList] ∧
      pages? "/:page:page(1,18446744073709551616):&:page(1,2):".toList ⟨some 3⟩ = none ∧
      pages? "/:page:page([a, b ,,c]):&:page(1,2):".toList ⟨some 3⟩ = some [['a'], ['b'], []] := by
  have hbefore : ¬ opening <:+: "/:page".toList := by decide
  have hdecimal (n : Nat) : IsDecimal n (Text.ofNat n) := by
    simpa using isDecimal_ofNat n (List.forall_mem_nil _) (List.forall_mem_nil _)
  obtain ⟨hwords, hlarge, hlist⟩ := pages?_written hbefore "&:page(1,2):".toList ⟨some 3⟩
  refine ⟨hbefore, ?_, ?_, ?_⟩
  · have hspace : ∀ c ∈ [' '], isBlank c := List.forall_mem_singleton.2 rfl
    have hfirst : IsDecimal (18446744073709551614 : UInt64).toNat " 18446744073709551614 ".toList :=
      isDecimal_ofNat 18446744073709551614 hspace hspace
    have hlast : IsDecimal (18446744073709551615 : UInt64).toNat "18446744073709551615".toList :=
      hdecimal 18446744073709551615
    exact (hwords _ _ _ _ hfirst hlast).1
  · exact hlarge 1 18446744073709551616 _ _ (hdecimal 1) (hdecimal 18446744073709551616)
      (.inr (by decide))
  · obtain ⟨parts, hparts, hpages⟩ := hlist "a, b ,,c".toList (by simp)
    have hcut : Text.IsCut ',' "a, b ,,c".toList [['a'], [' ', 'b', ' '], [], ['c']] :=
      ⟨by simp, by simp, by decide⟩
    rw [← (hparts _).1 hcut] at hpages
    exact hpages

end Template

end Playbill
