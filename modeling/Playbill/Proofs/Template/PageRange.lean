import Playbill.Proofs.Template.Segments
import Playbill.Proofs.Text.Basic
import Playbill.Template.PageRange

/-!
# The first page range of a template

* `PageRange.Spells`, `PageRange.written`: the grammar of ranges.
* `leading?_eq_some_iff`: the reader of ranges finds exactly what the grammar allows.
* `PageRange.FirstOf`: the first range of a text; `exists_firstOf`, `FirstOf.first?_eq`: it is the
  one that is read.
* `not_at_of_not_isInfix`: no range begins in a text without the opening marks.
-/

namespace Playbill

/-- No digit of any script is a blank. -/
theorem isBlank_of_isWordDigit {c : Char} (hc : isWordDigit c) : isBlank c = false := by
  have hdigit : inRanges decimalRanges c := (Bool.and_eq_true_iff.1 hc).1
  exact inRanges_eq_false_of_disjoint (by decide +kernel) hdigit

namespace PageRange

/-- A numeral as it may be written: digits with blanks around them. -/
def IsNumeral (digits written : Text) : Prop :=
  digits ≠ [] ∧ (∀ x ∈ digits, isWordDigit x) ∧
    ∃ before after, (∀ x ∈ before, isBlank x) ∧ (∀ x ∈ after, isBlank x) ∧
      written = before ++ digits ++ after

/-- What a range is written as between its parentheses. -/
inductive Spells : PageRange → Text → Prop
  | span {first last u v : Text} (hfirst : IsNumeral first u) (hlast : IsNumeral last v) :
      Spells (.span first last) (u ++ ',' :: v)
  | list {body : Text} (hbody : ']' ∉ body) : Spells (.list body) ('[' :: body ++ [']'])

/-- A range with what stands around it. -/
def written (inner : Text) : Text :=
  [':', 'p', 'a', 'g', 'e', '('] ++ inner ++ [')', ':']

/-- The numeral at the start of a text ends where a character stands that is neither a digit nor a
blank. -/
theorem numeral_iff {t digits rest : Text} {d : Char} (hdigit : isWordDigit d = false)
    (hblank : isBlank d = false) :
    digits ≠ [] ∧ (Text.trimStart t).takeWhile isWordDigit = digits ∧
        Text.trimStart ((Text.trimStart t).dropWhile isWordDigit) = d :: rest ↔
      ∃ written, IsNumeral digits written ∧ t = written ++ d :: rest := by
  constructor
  · rintro ⟨hne, rfl, hrest⟩
    refine ⟨_, ⟨hne, fun _ hx => List.mem_takeWhile_imp hx, t.takeWhile isBlank,
      ((Text.trimStart t).dropWhile isWordDigit).takeWhile isBlank,
      fun _ hx => List.mem_takeWhile_imp hx, fun _ hx => List.mem_takeWhile_imp hx, rfl⟩, ?_⟩
    simp only [List.append_assoc, ← hrest, Text.takeWhile_append_trimStart,
      List.takeWhile_append_dropWhile]
  · rintro ⟨_, ⟨hne, hdigits, before, after, hbefore, hafter, rfl⟩, rfl⟩
    have hstart : Text.trimStart (before ++ (digits ++ (after ++ d :: rest))) =
        digits ++ (after ++ d :: rest) := by
      obtain ⟨c, cs, rfl⟩ := List.exists_cons_of_ne_nil hne
      exact (Placeholder.takeWhile_dropWhile_append hbefore
        (isBlank_of_isWordDigit (hdigits c List.mem_cons_self)) _).2
    have hend : Text.trimStart (after ++ d :: rest) = d :: rest :=
      (Placeholder.takeWhile_dropWhile_append hafter hblank _).2
    have hrun := fun e (he : isWordDigit e = false) =>
      Placeholder.takeWhile_dropWhile_append hdigits he
    simp only [List.append_assoc, hstart]
    -- A blank is no digit, so the run of digits ends at the blanks after it, or else at `d`.
    cases after with
    | nil =>
      obtain ⟨htake, hdrop⟩ := hrun d hdigit rest
      exact ⟨hne, htake, (congrArg Text.trimStart hdrop).trans hend⟩
    | cons b after =>
      have hb : isWordDigit b = false :=
        Bool.eq_false_iff.2 fun h => by simp [isBlank_of_isWordDigit h] at hafter
      obtain ⟨htake, hdrop⟩ := hrun b hb (after ++ d :: rest)
      exact ⟨hne, htake, (congrArg Text.trimStart hdrop).trans hend⟩

theorem leadingSpan?_eq_some_iff {t rest : Text} {range : PageRange} :
    leadingSpan? t = some (range, ')' :: rest) ↔
      ∃ first last u v, range = .span first last ∧ IsNumeral first u ∧ IsNumeral last v ∧
        t = u ++ ',' :: v ++ ')' :: rest := by
  have hcomma (t digits rest : Text) : _ ↔ ∃ u, IsNumeral digits u ∧ t = u ++ ',' :: rest :=
    numeral_iff (by decide +kernel) (by decide)
  have hclose (t digits rest : Text) : _ ↔ ∃ u, IsNumeral digits u ∧ t = u ++ ')' :: rest :=
    numeral_iff (by decide +kernel) (by decide)
  constructor
  · intro h
    unfold leadingSpan? at h
    simp only at h
    split at h
    · rename_i after hafter
      split at h
      · cases h
      · rename_i hne
        simp only [Bool.or_eq_true, List.isEmpty_iff, not_or] at hne
        obtain ⟨rfl, hrest⟩ := Prod.mk.inj (Option.some.inj h)
        obtain ⟨u, hu, rfl⟩ := (hcomma ..).1 ⟨hne.1, rfl, hafter⟩
        obtain ⟨v, hv, rfl⟩ := (hclose ..).1 ⟨hne.2, rfl, hrest⟩
        exact ⟨_, _, u, v, rfl, hu, hv, by simp⟩
    · cases h
  · rintro ⟨first, last, u, v, rfl, hu, hv, rfl⟩
    obtain ⟨hfirst, htake, hdrop⟩ := (hcomma _ _ (v ++ ')' :: rest)).2 ⟨u, hu, rfl⟩
    obtain ⟨hlast, htake', hdrop'⟩ := (hclose _ _ rest).2 ⟨v, hv, rfl⟩
    simp only [List.append_assoc, List.cons_append] at *
    simp [leadingSpan?, htake, hdrop, htake', hdrop', hfirst, hlast]

theorem leadingList?_eq_some_iff {t rest : Text} {range : PageRange} :
    leadingList? t = some (range, rest) ↔
      ∃ body, range = .list body ∧ ']' ∉ body ∧ t = '[' :: body ++ ']' :: rest := by
  constructor
  · intro h
    unfold leadingList? at h
    split at h
    · rename_i u
      split at h
      · rename_i d after hdrop
        obtain ⟨rfl, rfl⟩ := Prod.mk.inj (Option.some.inj h)
        refine ⟨_, rfl, fun hmem => ?_, ?_⟩
        · simpa using List.mem_takeWhile_imp hmem
        · have hd := List.head_dropWhile_not (· != ']') (l := u) (by simp [hdrop])
          simp only [hdrop, List.head_cons, bne_eq_false_iff_eq] at hd
          rw [hd] at hdrop
          rw [List.cons_append, ← hdrop, List.takeWhile_append_dropWhile]
      · cases h
    · cases h
  · rintro ⟨body, rfl, hbody, rfl⟩
    have hchars : ∀ x ∈ body, (x != ']') = true := fun x hx => bne_iff_ne.2 fun e => hbody (e ▸ hx)
    obtain ⟨htake, hdrop⟩ :=
      Placeholder.takeWhile_dropWhile_append hchars (d := ']') (by decide) rest
    simp [leadingList?, htake, hdrop]

/-- A range that a reader finds, followed by the closing marks. -/
theorem closed_eq_some_iff {r : Option (PageRange × Text)} {range : PageRange} {after : Text} :
    (r.bind fun (range, rest) => (Text.dropLeading? "):" rest).map fun after => (range, after)) =
        some (range, after) ↔ r = some (range, ')' :: ':' :: after) := by
  rcases r with _ | ⟨range', rest⟩
  · simp
  · have hclose : Text.dropLeading? "):" rest = some after ↔ rest = ')' :: ':' :: after := by
      simp [Text.dropLeading?_eq_some_iff]
    simp [← hclose, and_comm]

/-- The two readers of a range, after the opening marks. -/
theorem leading?_eq_some_iff_readers {t after : Text} {range : PageRange} :
    leading? (":page(".toList ++ t) = some (range, after) ↔
      leadingSpan? t = some (range, ')' :: ':' :: after) ∨
        (∀ found rest, leadingSpan? t ≠ some (found, ')' :: ':' :: rest)) ∧
          leadingList? t = some (range, ')' :: ':' :: after) := by
  have hnone : ∀ {r : Option (PageRange × Text)},
      (r.bind fun (range, rest) => (Text.dropLeading? "):" rest).map fun after => (range, after)) =
        none ↔ ∀ found rest, r ≠ some (found, ')' :: ':' :: rest) := by
    intro r
    rw [Option.eq_none_iff_forall_ne_some, Prod.forall]
    exact forall₂_congr fun found rest => not_congr closed_eq_some_iff
  have hopen : Text.dropLeading? ":page(" (":page(".toList ++ t) = some t :=
    Text.dropLeading?_eq_some_iff.2 rfl
  rw [leading?, hopen, Option.bind_some]
  simp only [Option.orElse_eq_or]
  rw [Option.or_eq_some_iff, closed_eq_some_iff, closed_eq_some_iff, hnone]

/-- The range that starts a text is the one whose written form starts it. -/
theorem leading?_eq_some_iff {t after : Text} {range : PageRange} :
    leading? t = some (range, after) ↔
      ∃ inner, range.Spells inner ∧ t = written inner ++ after := by
  constructor
  · intro h
    obtain ⟨u, hu, -⟩ := Option.bind_eq_some_iff.1 h
    obtain rfl := Text.dropLeading?_eq_some_iff.1 hu
    rcases leading?_eq_some_iff_readers.1 h with h | ⟨-, h⟩
    · obtain ⟨first, last, u, v, rfl, hfirst, hlast, rfl⟩ := leadingSpan?_eq_some_iff.1 h
      exact ⟨_, .span hfirst hlast, by simp [written]⟩
    · obtain ⟨body, rfl, hbody, rfl⟩ := leadingList?_eq_some_iff.1 h
      exact ⟨_, .list hbody, by simp [written]⟩
  · rintro ⟨inner, hspells, rfl⟩
    have hwritten : written inner ++ after = ":page(".toList ++ (inner ++ ')' :: ':' :: after) := by
      simp [written]
    rw [hwritten, leading?_eq_some_iff_readers]
    cases hspells with
    | span hfirst hlast =>
      exact .inl (leadingSpan?_eq_some_iff.2 ⟨_, _, _, _, rfl, hfirst, hlast, rfl⟩)
    | list hbody =>
      refine .inr ⟨fun found rest h => ?_, leadingList?_eq_some_iff.2 ⟨_, rfl, hbody, by simp⟩⟩
      -- A numeral starts with a blank or a digit, and a bracket is neither.
      obtain ⟨first, last, u, v, rfl, ⟨hne, hdigits, before, _, hblank, -, rfl⟩, -, ht⟩ :=
        leadingSpan?_eq_some_iff.1 h
      cases before with
      | nil =>
        obtain ⟨c, cs, rfl⟩ := List.exists_cons_of_ne_nil hne
        obtain ⟨rfl, -⟩ := List.cons.inj ht
        exact absurd (hdigits '[' List.mem_cons_self) (by decide +kernel)
      | cons c before =>
        obtain ⟨rfl, -⟩ := List.cons.inj ht
        exact absurd (hblank '[' List.mem_cons_self) (by decide)

/-- A range stands at a position of a text. -/
def At (t : Text) (i : Nat) : Prop :=
  ∃ (range : PageRange) (inner : Text), range.Spells inner ∧ written inner <+: t.drop i

theorem at_zero_iff {t : Text} : At t 0 ↔ ∃ range after, leading? t = some (range, after) := by
  simp only [At, List.drop_zero, leading?_eq_some_iff, List.IsPrefix]
  constructor
  · rintro ⟨range, inner, hspells, after, rfl⟩
    exact ⟨range, after, inner, hspells, rfl⟩
  · rintro ⟨range, after, inner, hspells, rfl⟩
    exact ⟨range, inner, hspells, after, rfl⟩

/-- The first range of a text: the texts before it, between its parentheses, and after it. -/
structure FirstOf (t : Text) (range : PageRange) (before inner after : Text) : Prop where
  spells : range.Spells inner
  text : t = before ++ written inner ++ after
  first : ∀ i < before.length, ¬ At t i

/-- The reader finds the first range. -/
theorem exists_firstOf {t before after : Text} {range : PageRange}
    (h : first? t = some (before, range, after)) : ∃ inner, FirstOf t range before inner after := by
  induction t generalizing before with
  | nil => cases h
  | cons c t ih =>
    unfold first? at h
    split at h
    · rename_i hlead
      obtain ⟨rfl, rfl, rfl⟩ : [] = before ∧ _ = range ∧ _ = after := by simpa using h
      obtain ⟨inner, hspells, htext⟩ := leading?_eq_some_iff.1 hlead
      exact ⟨inner, hspells, htext, fun i hi => absurd hi (Nat.not_lt_zero i)⟩
    · rename_i hlead
      obtain ⟨⟨before', found⟩, hfirst, he⟩ := Option.map_eq_some_iff.1 h
      obtain ⟨rfl, rfl⟩ := Prod.mk.inj he
      obtain ⟨inner, hinner⟩ := ih hfirst
      refine ⟨inner, hinner.spells, congrArg (c :: ·) hinner.text, fun i hi hat => ?_⟩
      cases i with
      | zero => 
        obtain ⟨range, after, hsome⟩ := at_zero_iff.1 hat
        simp [hlead] at hsome
      | succ i => exact hinner.first i (Nat.lt_of_succ_lt_succ hi) hat

/-- The reader finds a range wherever it is the first of its text. -/
theorem FirstOf.first?_eq {t before inner after : Text} {range : PageRange}
    (h : FirstOf t range before inner after) : first? t = some (before, range, after) := by
  induction before generalizing t with
  | nil =>
    have hlead : leading? t = some (range, after) :=
      leading?_eq_some_iff.2 ⟨inner, h.spells, h.text⟩
    obtain ⟨c, rest, htext⟩ : ∃ c rest, t = c :: rest := ⟨_, _, h.text⟩
    rw [htext] at hlead ⊢
    rw [first?, hlead]
  | cons c before ih =>
    have htext : t = c :: (before ++ written inner ++ after) := h.text
    have hlead : leading? t = none := by
      rw [Option.eq_none_iff_forall_ne_some]
      intro found hfound
      exact h.first 0 (by simp) (at_zero_iff.2 ⟨found.1, found.2, hfound⟩)
    have hrest : FirstOf (before ++ written inner ++ after) range before inner after := by
      refine ⟨h.spells, rfl, fun i hi hat => h.first (i + 1) (by simpa using hi) ?_⟩
      rw [htext]
      exact hat
    rw [htext] at hlead ⊢
    rw [first?, hlead, ih hrest]
    rfl

/-- The marks that open a range. -/
def opening : Text :=
  [':', 'p', 'a', 'g', 'e', '(']

/-- No range begins before a colon in a text without the opening marks. -/
theorem not_at_of_not_isInfix {before t : Text} (hbefore : ¬ opening <:+: before)
    (ht : t.head? = some ':') {i : Nat} (hi : i < before.length) : ¬ At (before ++ t) i := by
  rintro ⟨range, inner, -, after, hafter⟩
  have hne : before.drop i ≠ [] := by simpa using hi
  have hwithin : ∀ {u}, u <+: before.drop i → u <:+: before := fun h =>
    h.isInfix.trans (List.drop_suffix i before).isInfix
  rw [List.drop_append_of_le_length hi.le] at hafter
  have hmarks : opening ++ (inner ++ [')', ':'] ++ after) = before.drop i ++ t := by
    simpa [written, opening] using hafter
  generalize before.drop i = rest at hne hwithin hmarks
  rcases List.append_eq_append_iff.1 hmarks with ⟨x, hx, -⟩ | ⟨x, hx, htail⟩
  · exact hbefore (hwithin ⟨x, hx.symm⟩)
  · cases x with
    | nil => exact hbefore (hwithin (by simp [hx]))
    | cons d x =>
      -- The marks would go on with a colon, and there is none behind their first character.
      obtain ⟨c, rest, rfl⟩ := List.exists_cons_of_ne_nil hne
      obtain rfl : d = ':' := by simpa [htail] using ht
      have hmem : ':' ∈ ['p', 'a', 'g', 'e', '('] := by
        rw [(List.cons.inj hx).2]
        simp
      simp at hmem

end PageRange

end Playbill
