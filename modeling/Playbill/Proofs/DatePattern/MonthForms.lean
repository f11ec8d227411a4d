import Playbill.DatePattern.Printer
import Playbill.DatePattern.Reader
import Playbill.Proofs.Text.Letters

/-!
# Forms of months

The names that a locale lists for a month start one another, and differ in length and case.  None of
them is mistaken for a form of another month, as long as it is not followed by a letter.

* `Locale.WellNamed`: the names of a locale can be told apart; `wellNamed_of_mem_all`: those of the
  built-in locales can.
* `readMonth?_append`: a form of a month is read to its end.
-/

namespace Playbill

namespace DatePattern

/-- The characters of weekday names. -/
def isNameChar (c : Char) : Bool :=
  isAlphabetic c || c == '-'

end DatePattern

open DatePattern

/-! ### Built-in locales -/

/-- The names of a locale can be told apart: they are there for every month and weekday, they are
made of letters, and no two months share a form in lower case. -/
structure Locale.WellNamed (locale : Locale) : Prop where
  months : locale.months.length = 12 ∧ locale.monthsShort.length = 12
  weekdays : locale.weekdays.length = 7 ∧ locale.weekdaysShort.length = 7
  letters : ∀ form ∈ monthForms locale, form.2 ≠ [] ∧ (∀ c ∈ form.2, isAlphabetic c) ∧
    ∀ c ∈ Text.lower form.2, isAlphabetic c
  apart : ∀ form ∈ monthForms locale, ∀ other ∈ monthForms locale,
    Text.lower form.2 = Text.lower other.2 → form.1 = other.1
  weekday : ∀ name ∈ locale.weekdays ++ locale.weekdaysShort, name ≠ [] ∧ ∀ c ∈ name, isNameChar c

theorem names_ofList (t : Text) : names (String.ofList t) = Text.words t := by
  rw [names, String.toList_ofList]

/-- Whether the names of a locale can be told apart. -/
def Locale.isWellNamed (locale : Locale) : Bool :=
  locale.months.length == 12 && locale.monthsShort.length == 12 &&
    locale.weekdays.length == 7 && locale.weekdaysShort.length == 7 &&
    (monthForms locale).all (fun form =>
      !form.2.isEmpty && form.2.all isAlphabetic && (Text.lower form.2).all isAlphabetic) &&
    (monthForms locale).all (fun form => (monthForms locale).all fun other =>
      Text.lower form.2 != Text.lower other.2 || form.1 == other.1) &&
    (locale.weekdays ++ locale.weekdaysShort).all fun name => !name.isEmpty && name.all isNameChar

theorem Locale.isWellNamed_iff (locale : Locale) : locale.isWellNamed ↔ locale.WellNamed := by
  simp only [isWellNamed, Bool.and_eq_true, beq_iff_eq, List.all_eq_true, Bool.not_eq_true',
    List.isEmpty_eq_false_iff, Bool.or_eq_true, bne_iff_ne, ne_eq, ← imp_iff_not_or]
  constructor
  · rintro ⟨⟨⟨⟨⟨⟨hmonths, hshort⟩, hweekdays⟩, hweekdaysShort⟩, hletters⟩, hapart⟩, hweekday⟩
    exact ⟨⟨hmonths, hshort⟩, ⟨hweekdays, hweekdaysShort⟩,
      fun form hform => and_assoc.1 (hletters form hform), hapart, hweekday⟩
  · rintro ⟨⟨hmonths, hshort⟩, ⟨hweekdays, hweekdaysShort⟩, hletters, hapart, hweekday⟩
    exact ⟨⟨⟨⟨⟨⟨hmonths, hshort⟩, hweekdays⟩, hweekdaysShort⟩,
      fun form hform => and_assoc.2 (hletters form hform)⟩, hapart⟩, hweekday⟩

/-- The names of the built-in locales can be told apart. -/
theorem wellNamed_of_mem_all {locale : Locale} (h : locale ∈ Locale.all) : locale.WellNamed := by
  have hall : Locale.all.all Locale.isWellNamed = true := by
    unfold Locale.all Locale.english Locale.german Locale.french Locale.spanish Locale.italian
      Locale.dutch Locale.portuguese Locale.polish Locale.czech Locale.swedish
    -- The kernel takes long to decode a string, so that the words are cut from lists of characters.
    repeat rw [names_ofList]
    decide +kernel
  exact locale.isWellNamed_iff.1 (List.all_eq_true.1 hall locale h)

namespace DatePattern

variable {locale : Locale} {month : Nat} {form rest : Text}

/-- The forms in which months are written are listed. -/
theorem mem_monthForms (hlocale : locale.WellNamed) (hmonth : 1 ≤ month ∧ month ≤ 12) :
    (month, nameAt locale.months (month - 1)) ∈ monthForms locale ∧
      (month, nameAt locale.monthsShort (month - 1)) ∈ monthForms locale := by
  have hmem {names : List Text} (hlen : names.length = 12) :
      (month, nameAt names (month - 1)) ∈ names.mapIdx fun i name => (i + 1, name) := by
    have hlt : month - 1 < names.length := by omega
    refine List.mem_mapIdx.2 ⟨month - 1, hlt, ?_⟩
    rw [nameAt, List.getElem?_eq_getElem hlt, Option.getD_some, Nat.sub_add_cancel hmonth.1]
  exact ⟨List.mem_append_left _ (List.mem_append_left _ (hmem hlocale.months.1)),
    List.mem_append_right _ (hmem hlocale.months.2)⟩

/-! ### Reading a form -/

theorem dropIgnoringCase?_append (t rest : Text) :
    dropIgnoringCase? t (t ++ rest) = some rest := by
  rw [dropIgnoringCase?, Text.takeBytes?_eq_some_iff.2 ⟨rfl, rfl⟩]
  simp

theorem exists_of_dropIgnoringCase? {beginning t : Text}
    (h : dropIgnoringCase? beginning t = some rest) :
    ∃ head, t = head ++ rest ∧ Text.utf8Length head = Text.utf8Length beginning ∧
      Text.lower head = Text.lower beginning := by
  unfold dropIgnoringCase? at h
  split at h
  · rename_i head rest' htake
    split_ifs at h with hlower
    obtain rfl := Option.some.inj h
    obtain ⟨ht, hlen⟩ := Text.takeBytes?_eq_some_iff.1 htake
    exact ⟨head, ht, hlen, beq_iff_eq.1 hlower⟩
  · cases h

/-- A form that is found where another one stands is shorter, or it is of the same month and as
long: a longer one would take a character that is no letter. -/
theorem found_where_form (hlocale : locale.WellNamed) (hform : (month, form) ∈ monthForms locale)
    (hrest : ¬ rest.head?.any isAlphabetic) {other : Nat × Text}
    (hother : other ∈ monthForms locale) {rest' : Text}
    (h : dropIgnoringCase? other.2 (form ++ rest) = some rest') :
    Text.utf8Length other.2 < Text.utf8Length form ∨
      (Text.utf8Length other.2, other.1, rest') = (Text.utf8Length form, month, rest) := by
  obtain ⟨head, htext, hlen, hlower⟩ := exists_of_dropIgnoringCase? h
  rcases List.append_eq_append_iff.1 htext with ⟨more, rfl, htail⟩ | ⟨more, rfl, rfl⟩
  · cases more with
    | nil =>
      rw [List.append_nil] at hlen hlower
      exact .inr (by rw [← hlen, hlocale.apart _ hother _ hform hlower.symm, htail]; rfl)
    | cons c more =>
      rw [htail, List.cons_append, List.head?_cons, Option.any_some, Bool.not_eq_true] at hrest
      have hmem : c ∈ Text.lower other.2 :=
        hlower ▸ mem_lower_of_not_isAlphabetic hrest
          (List.mem_append_right form List.mem_cons_self)
      exact absurd ((hlocale.letters _ hother).2.2 c hmem) (Bool.eq_false_iff.1 hrest)
  · cases more with
    | nil =>
      rw [List.append_nil] at hform ⊢
      exact .inr (by rw [← hlen, hlocale.apart _ hother _ hform hlower.symm]; rfl)
    | cons c more =>
      have hpos : 0 < Text.utf8Length (c :: more) := Text.utf8Length_pos (List.cons_ne_nil c more)
      exact .inl (by rw [Text.utf8Length_append]; omega)

/-- Of some finds, the last of the longest is chosen. -/
theorem foldl_longest {α : Type} {choose : Option (Nat × α) → Nat × α → Option (Nat × α)}
    (hnone : ∀ next, choose none next = some next)
    (hsome : ∀ best next, choose (some best) next =
      if best.1 ≤ next.1 then some next else some best)
    {longest : Nat × α} {finds : List (Nat × α)}
    (hfinds : ∀ find ∈ finds, find.1 < longest.1 ∨ find = longest) {best : Option (Nat × α)}
    (hbest : ∀ find ∈ best, find.1 < longest.1 ∨ find = longest)
    (hmem : longest ∈ finds ∨ best = some longest) :
    finds.foldl choose best = some longest := by
  induction finds generalizing best with
  | nil => simpa using hmem
  | cons find finds ih =>
    obtain ⟨hfind, hfinds⟩ := List.forall_mem_cons.1 hfinds
    -- The choice between the best so far and this find is one of the two, and the longest if either
    -- is.
    have hchoose : (∀ chosen ∈ choose best find, chosen.1 < longest.1 ∨ chosen = longest) ∧
        (find = longest ∨ best = some longest → choose best find = some longest) := by
      cases best with
      | none =>
        rw [hnone]
        simpa using hfind
      | some best =>
        have hbest := hbest best rfl
        rw [hsome]
        split_ifs with hle
        · refine ⟨by simpa using hfind, ?_⟩
          rintro (rfl | hself)
          · rfl
          · obtain rfl := Option.some.inj hself
            rcases hfind with hlt | rfl
            · omega
            · rfl
        · refine ⟨by simpa using hbest, ?_⟩
          rintro (rfl | hself)
          · rcases hbest with hlt | rfl
            · omega
            · rfl
          · exact hself
    refine ih hfinds hchoose.1 ?_
    rcases hmem with hmem | hself
    · rcases List.mem_cons.1 hmem with rfl | hmem
      · exact .inr (hchoose.2 (.inl rfl))
      · exact .inl hmem
    · exact .inr (hchoose.2 (.inr hself))

/-- **A form of a month is read to its end, and understood as this month**, unless a letter comes
after it. -/
theorem readMonth?_append (hlocale : locale.WellNamed) (hform : (month, form) ∈ monthForms locale)
    (hrest : ¬ rest.head?.any isAlphabetic) :
    readMonth? locale (form ++ rest) = some (month, rest) := by
  rw [readMonth?]
  refine (congrArg (Option.map Prod.snd)
    (foldl_longest (fun _ => rfl) (fun _ _ => rfl) ?_ (by simp) (.inl ?_) :
      _ = some (Text.utf8Length form, month, rest))).trans rfl
  · intro find hfind
    obtain ⟨other, hother, hmap⟩ := List.mem_filterMap.1 hfind
    obtain ⟨rest', hread, rfl⟩ := Option.map_eq_some_iff.1 hmap
    exact found_where_form hlocale hform hrest hother hread
  · refine List.mem_filterMap.2 ⟨(month, form), hform, ?_⟩
    simp only [dropIgnoringCase?_append, Option.map_some]

end DatePattern

end Playbill
