import Mathlib.Data.List.TakeWhile
import Mathlib.Tactic
import Playbill.Text.Basic

/-!
# Blanks and numerals

* `inRanges_eq_false_of_disjoint`: classes of characters that have none in common.
* `trimStart_trimStart`, `trimStart_cons_blank`: blanks at the start of a text.
* `takeWhile_dropWhile_append`, `takeWhile_append_stop`: where a run of characters ends.
* `dropLeading?_eq_some_iff`: the text after a given beginning.
* `trimBy_surround`: what is dropped from around a text.
* `pieces_append_cons`, `notMem_of_mem_pieces`: cutting at one character; `isCut_iff`: there is one
  way to do it.
* `natOfDigits_ofNat`, `natOfDigits_padded`: a written numeral is read back.
* `length_ofNat_le`, `length_padded`: how many digits are written.
* `IsWordNumeral`, `unsigned?_eq_some_iff`: the numerals of 64-bit numbers.
* `isBlank_of_isAsciiDigit`: digits are no blanks.
* `takeBytes?_eq_some_iff`: a text is cut after so many bytes where a beginning has that length.
-/

namespace Playbill

/-- Whether no range of one table meets one of another. -/
def rangesApart (rs qs : List (Nat × Nat)) : Bool :=
  -- The kernel compares numerals by `Nat.blt` at once.
  rs.all fun r => qs.all fun q => r.2.blt q.1 || q.2.blt r.1

theorem inRanges_eq_false_of_disjoint {rs qs : List (Nat × Nat)} (h : rangesApart rs qs)
    {c : Char} (hc : inRanges rs c) : inRanges qs c = false := by
  obtain ⟨r, hr, hrc⟩ := List.any_eq_true.1 hc
  refine List.any_eq_false.2 fun q hq => ?_
  have hapart := List.all_eq_true.1 (List.all_eq_true.1 h r hr) q hq
  simp only [Bool.or_eq_true, Nat.blt_eq] at hapart
  simp only [Bool.and_eq_true, decide_eq_true_eq] at hrc ⊢
  omega

namespace Text

/-! ### Blanks -/

theorem takeWhile_append_trimStart (t : Text) : t.takeWhile isBlank ++ trimStart t = t :=
  List.takeWhile_append_dropWhile

theorem trimStart_cons_blank {c : Char} (hc : isBlank c) (t : Text) :
    trimStart (c :: t) = trimStart t := by
  simp [trimStart, hc]

theorem trimStart_cons_of_not_blank {c : Char} (hc : isBlank c = false) (t : Text) :
    trimStart (c :: t) = c :: t := by
  simp [trimStart, hc]

@[simp] theorem trimStart_trimStart (t : Text) : trimStart (trimStart t) = trimStart t := by
  induction t with
  | nil => rfl
  | cons c t ih =>
    cases hc : isBlank c with
    | true => rw [trimStart_cons_blank hc, ih]
    | false => rw [trimStart_cons_of_not_blank hc, trimStart_cons_of_not_blank hc]

/-! ### Beginnings -/

/-- A run of characters ends where no other of its kind follows. -/
theorem takeWhile_dropWhile_append {p : Char → Bool} {run rest : Text} (hrun : ∀ c ∈ run, p c)
    (hrest : ¬ rest.head?.any p) :
    (run ++ rest).takeWhile p = run ∧ (run ++ rest).dropWhile p = rest := by
  rw [List.takeWhile_append_of_pos hrun, List.dropWhile_append_of_pos hrun]
  cases rest with
  | nil => exact ⟨List.append_nil run, rfl⟩
  | cons c rest =>
    have hc : p c = false := Bool.eq_false_iff.2 hrest
    rw [List.takeWhile_cons, List.dropWhile_cons, hc]
    exact ⟨List.append_nil run, rfl⟩

/-- A run of characters goes no further where a character of another kind is put in. -/
theorem takeWhile_append_stop {p : Char → Bool} {stop : Char} (h : p stop = false) (t rest : Text) :
    (t ++ stop :: rest).takeWhile p = t.takeWhile p := by
  induction t with
  | nil => rw [List.nil_append, List.takeWhile_cons, h]; rfl
  | cons c t ih => rw [List.cons_append, List.takeWhile_cons, List.takeWhile_cons, ih]

theorem takeWhile_take_append_stop {p : Char → Bool} {stop : Char} (h : p stop = false) (n : Nat)
    (t rest : Text) : ((t ++ stop :: rest).take n).takeWhile p = (t.take n).takeWhile p := by
  induction t generalizing n with
  | nil => cases n <;> simp [h]
  | cons c t ih =>
    cases n with
    | zero => rfl
    | succ n => simp [List.takeWhile_cons, ih]

theorem dropWhile_append_stop {p : Char → Bool} {stop : Char} (h : p stop = false) (t rest : Text) :
    (t ++ stop :: rest).dropWhile p = t.dropWhile p ++ stop :: rest := by
  induction t with
  | nil => rw [List.nil_append, List.dropWhile_cons, h]; rfl
  | cons c t ih =>
    rw [List.cons_append, List.dropWhile_cons, List.dropWhile_cons, ih]
    split_ifs <;> rfl

theorem dropLeading?_eq_some_iff {beginning t rest : Text} :
    dropLeading? beginning t = some rest ↔ t = beginning ++ rest := by
  fun_induction dropLeading? beginning t with
  | case1 t => simp
  | case2 p ps => simp
  | case3 p ps c cs h ih =>
    rw [ih, List.cons_append, List.cons.injEq, beq_iff_eq.1 h, and_iff_right rfl]
  | case4 p ps c cs h =>
    simp only [reduceCtorEq, List.cons_append, List.cons.injEq, false_iff, not_and]
    exact fun hc => absurd (beq_iff_eq.2 hc.symm) h

/-! ### Ends -/

/-- The last character of a text that follows a character. -/
theorem getLast?_cons_or (c : Char) (t : Text) (before : Option Char) :
    (c :: t).getLast?.or before = t.getLast?.or (some c) := by
  rw [List.getLast?_cons, Option.or_some, Option.some_or]

theorem dropWhile_of_forall {p : Char → Bool} {t : Text} (h : ∀ c ∈ t, p c = false) :
    t.dropWhile p = t := by
  cases t with
  | nil => rfl
  | cons c t => exact List.dropWhile_cons_of_neg (Bool.eq_false_iff.1 (h c List.mem_cons_self))

/-- What is dropped at the ends of a text is blank. -/
theorem exists_eq_append_trim_append (t : Text) :
    ∃ before after, t = before ++ trim t ++ after ∧ (∀ c ∈ before, isBlank c) ∧
      ∀ c ∈ after, isBlank c := by
  refine ⟨t.takeWhile isBlank, ((trimStart t).reverse.takeWhile isBlank).reverse, ?_,
    fun c hc => List.mem_takeWhile_imp hc,
    fun c hc => List.mem_takeWhile_imp (List.mem_reverse.1 hc)⟩
  rw [trim, trimEnd, List.append_assoc, ← List.reverse_append, List.takeWhile_append_dropWhile,
    List.reverse_reverse, takeWhile_append_trimStart]

/-- Characters of a class around a text without any are dropped from it. -/
theorem trimBy_surround {drop : Char → Bool} {c d : Char} {t : Text} (hc : drop c) (hd : drop d)
    (ht : ∀ x ∈ t, drop x = false) : trimBy drop (c :: (t ++ [d])) = t := by
  rw [trimBy, List.dropWhile_cons_of_pos hc]
  cases t with
  | nil => rw [List.nil_append, List.dropWhile_cons_of_pos hd]; rfl
  | cons x t =>
    rw [List.cons_append,
      List.dropWhile_cons_of_neg (Bool.eq_false_iff.1 (ht x List.mem_cons_self)),
      ← List.cons_append, List.reverse_append, List.reverse_singleton, List.singleton_append,
      List.dropWhile_cons_of_pos hd,
      dropWhile_of_forall fun y hy => ht y (List.mem_reverse.1 hy), List.reverse_reverse]

/-! ### Pieces -/

theorem piecesBy_ne_nil (cut : Char → Bool) (t : Text) : piecesBy cut t ≠ [] := by
  cases t with
  | nil => exact List.cons_ne_nil _ _
  | cons c t =>
    rw [piecesBy]
    split_ifs
    · exact List.cons_ne_nil _ _
    · split <;> exact List.cons_ne_nil _ _

theorem piecesBy_of_forall {cut : Char → Bool} {t : Text} (h : ∀ c ∈ t, cut c = false) :
    piecesBy cut t = [t] := by
  induction t with
  | nil => rfl
  | cons c t ih =>
    obtain ⟨hc, ht⟩ := List.forall_mem_cons.1 h
    rw [piecesBy, if_neg (Bool.eq_false_iff.1 hc), ih ht]

/-- A text is cut at each occurrence apart. -/
theorem piecesBy_append_cons {cut : Char → Bool} {d : Char} (hd : cut d) (s t : Text) :
    piecesBy cut (s ++ d :: t) = piecesBy cut s ++ piecesBy cut t := by
  induction s with
  | nil =>
    have hcons : piecesBy cut (d :: t) = [] :: piecesBy cut t := by rw [piecesBy, if_pos hd]
    exact hcons
  | cons c s ih =>
    rw [List.cons_append, piecesBy, piecesBy, ih]
    split_ifs
    · rfl
    · obtain ⟨piece, later, hpieces⟩ := List.exists_cons_of_ne_nil (piecesBy_ne_nil cut s)
      rw [hpieces]
      rfl

theorem pieces_of_notMem {separator : Char} {t : Text} (h : separator ∉ t) :
    pieces separator t = [t] :=
  piecesBy_of_forall fun _ hc => beq_eq_false_iff_ne.2 fun heq => h (heq ▸ hc)

theorem pieces_append_cons (separator : Char) (s t : Text) :
    pieces separator (s ++ separator :: t) = pieces separator s ++ pieces separator t :=
  @piecesBy_append_cons (· == separator) separator (beq_self_eq_true separator) s t

/-- A text is a single piece, or a piece before a text that is shorter. -/
@[elab_as_elim]
theorem pieces_induction (separator : Char) {motive : Text → Prop}
    (last : ∀ piece, separator ∉ piece → motive piece)
    (piece : ∀ piece later, separator ∉ piece → motive later →
      motive (piece ++ separator :: later)) (t : Text) : motive t := by
  induction hn : t.length using Nat.strong_induction_on generalizing t with
  | _ n ih =>
    by_cases hmem : separator ∈ t
    · obtain ⟨first, later, rfl, hfirst⟩ := List.eq_append_cons_of_mem hmem
      refine piece first later hfirst (ih later.length ?_ later rfl)
      rw [← hn, List.length_append, List.length_cons]
      omega
    · exact last t hmem

theorem notMem_of_mem_pieces {separator : Char} {t piece : Text}
    (h : piece ∈ pieces separator t) : separator ∉ piece := by
  induction t using pieces_induction separator with
  | last t ht =>
    rw [pieces_of_notMem ht] at h
    rwa [List.mem_singleton.1 h]
  | piece first later hfirst ih =>
    rw [pieces_append_cons, pieces_of_notMem hfirst] at h
    rcases List.mem_append.1 h with h | h
    · rwa [List.mem_singleton.1 h]
    · exact ih h

/-- Some texts are what lies between the occurrences of a character in a text. -/
def IsCut (separator : Char) (t : Text) (parts : List Text) : Prop :=
  parts ≠ [] ∧ (∀ part ∈ parts, separator ∉ part) ∧ joinWith [separator] parts = t

/-- The pieces of a text are the one way to cut it. -/
theorem isCut_iff {separator : Char} {t : Text} {parts : List Text} :
    IsCut separator t parts ↔ parts = pieces separator t := by
  constructor
  · rintro ⟨hne, hparts, rfl⟩
    induction parts with
    | nil => exact absurd rfl hne
    | cons part parts ih =>
      obtain ⟨hpart, hparts⟩ := List.forall_mem_cons.1 hparts
      by_cases hlast : parts = []
      · subst hlast
        simp [joinWith, pieces_of_notMem hpart]
      · have hrest : parts = pieces separator (joinWith [separator] parts) := ih hlast hparts
        rw [joinWith, List.intercalate_cons_of_ne_nil hlast, List.append_assoc,
          List.singleton_append, pieces_append_cons, pieces_of_notMem hpart, List.singleton_append]
        exact congrArg (part :: ·) hrest
  · rintro rfl
    refine ⟨piecesBy_ne_nil _ t, fun part => notMem_of_mem_pieces, ?_⟩
    induction t using pieces_induction separator with
    | last t ht => simp [pieces_of_notMem ht, joinWith]
    | piece first later hfirst ih =>
      have hlater : pieces separator later ≠ [] := piecesBy_ne_nil _ later
      rw [joinWith] at ih ⊢
      rw [pieces_append_cons, pieces_of_notMem hfirst, List.singleton_append,
        List.intercalate_cons_of_ne_nil hlater, ih, List.append_assoc, List.singleton_append]

/-! ### Numerals -/

theorem isAsciiDigit_of_mem_ofNat {n : Nat} {c : Char} (hc : c ∈ ofNat n) : isAsciiDigit c := by
  have := Nat.isDigit_of_mem_toDigits (by decide) (by decide) hc
  simpa [isAsciiDigit, Char.isDigit, Char.le_def] using this

theorem isAsciiDigit_of_mem_padded {width n : Nat} {c : Char} (hc : c ∈ padded width n) :
    isAsciiDigit c := by
  rcases List.mem_append.1 hc with hc | hc
  · rw [List.eq_of_mem_replicate hc]
    decide
  · exact isAsciiDigit_of_mem_ofNat hc

theorem ofNat_ne_nil (n : Nat) : ofNat n ≠ [] :=
  Nat.toDigits_ne_nil

theorem padded_ne_nil (width n : Nat) : padded width n ≠ [] := by
  simp [padded, ofNat_ne_nil]

/-- A written number is read back. -/
@[simp] theorem natOfDigits_ofNat (n : Nat) : natOfDigits (ofNat n) = n :=
  Nat.ofDigitChars_ten_toDigits

/-- Zeros on the left do not change the value. -/
@[simp] theorem natOfDigits_padded (width n : Nat) : natOfDigits (padded width n) = n := by
  have hzeros : natOfDigits (List.replicate (width - (ofNat n).length) '0') = 0 :=
    Nat.ofDigitChars_replicate_zero
  have happend : natOfDigits (padded width n) =
      digitsAfter (natOfDigits (List.replicate (width - (ofNat n).length) '0')) (ofNat n) :=
    List.foldl_append ..
  rw [happend, hzeros]
  exact natOfDigits_ofNat n

theorem length_ofNat_le {n k : Nat} (hk : 0 < k) (hn : n < 10 ^ k) : (ofNat n).length ≤ k :=
  (Nat.length_toDigits_le_iff (by decide) hk).2 hn

theorem length_padded {width n : Nat} (hw : 0 < width) (hn : n < 10 ^ width) :
    (padded width n).length = width := by
  have := length_ofNat_le hw hn
  rw [padded, List.length_append, List.length_replicate]
  omega

/-- A text is the numeral of a 64-bit number: digits, perhaps after a plus sign. -/
def IsWordNumeral (t : Text) (n : Nat) : Prop :=
  ∃ digits : Text, digits ≠ [] ∧ (∀ c ∈ digits, isAsciiDigit c) ∧
    (t = digits ∨ t = '+' :: digits) ∧ natOfDigits digits = n ∧ n < wordLimit

theorem natOfDigits?_eq_some_iff {t : Text} {n : Nat} :
    natOfDigits? t = some n ↔ t ≠ [] ∧ (∀ c ∈ t, isAsciiDigit c) ∧ natOfDigits t = n := by
  unfold natOfDigits?
  split_ifs with h
  · simp only [Bool.and_eq_true, Bool.not_eq_true', List.isEmpty_eq_false_iff,
      List.all_eq_true] at h
    rw [Option.some.injEq, and_iff_right h.1, and_iff_right h.2]
  · simp only [Bool.and_eq_true, Bool.not_eq_true', List.isEmpty_eq_false_iff,
      List.all_eq_true] at h
    simp only [false_iff]
    exact fun hall => h ⟨hall.1, hall.2.1⟩

theorem unsigned?_eq_some_iff {t : Text} {n : Nat} :
    unsigned? t = some n ↔ IsWordNumeral t n := by
  unfold unsigned?
  simp only [Option.filter_eq_some_iff, natOfDigits?_eq_some_iff, decide_eq_true_eq]
  constructor
  · rintro ⟨⟨hne, hdigits, hvalue⟩, hlt⟩
    refine ⟨_, hne, hdigits, ?_, hvalue, hlt⟩
    split
    · exact .inr rfl
    · exact .inl rfl
  · rintro ⟨digits, hne, hdigits, rfl | rfl, hvalue, hlt⟩
    · -- A digit is no sign.
      have hsign : ∀ rest, t ≠ '+' :: rest := by
        rintro rest rfl
        cases hdigits '+' List.mem_cons_self
      split
      · exact absurd rfl (hsign _)
      · exact ⟨⟨hne, hdigits, hvalue⟩, hlt⟩
    · exact ⟨⟨hne, hdigits, hvalue⟩, hlt⟩

theorem isWordNumeral_ofNat {n : Nat} (h : n < wordLimit) : IsWordNumeral (ofNat n) n :=
  ⟨ofNat n, ofNat_ne_nil n, fun _ => isAsciiDigit_of_mem_ofNat, .inl rfl, natOfDigits_ofNat n, h⟩

theorem toNat_of_isAsciiDigit {c : Char} (hc : isAsciiDigit c) : 48 ≤ c.toNat ∧ c.toNat ≤ 57 := by
  simpa [isAsciiDigit, Char.le_def, UInt32.le_iff_toNat_le] using hc

/-- No digit is a blank. -/
theorem isBlank_of_isAsciiDigit {c : Char} (hc : isAsciiDigit c) : isBlank c = false := by
  have hbounds := toNat_of_isAsciiDigit hc
  simp [isBlank, inRanges]
  omega

/-! ### Bytes -/

theorem utf8Length_cons (c : Char) (t : Text) : utf8Length (c :: t) = c.utf8Size + utf8Length t :=
  rfl

theorem utf8Length_append (s t : Text) : utf8Length (s ++ t) = utf8Length s + utf8Length t := by
  induction s with
  | nil => simp [utf8Length]
  | cons c s ih => rw [List.cons_append, utf8Length_cons, utf8Length_cons, ih, Nat.add_assoc]

theorem utf8Length_pos {t : Text} (h : t ≠ []) : 0 < utf8Length t := by
  obtain ⟨c, t, rfl⟩ := List.exists_cons_of_ne_nil h
  rw [utf8Length_cons]
  have := c.utf8Size_pos
  omega

theorem takeBytes?_eq_some_iff {n : Nat} {t head rest : Text} :
    takeBytes? n t = some (head, rest) ↔ t = head ++ rest ∧ utf8Length head = n := by
  fun_induction takeBytes? n t generalizing head rest with
  | case1 t =>
    constructor
    · rintro ⟨⟩
      exact ⟨rfl, rfl⟩
    · rintro ⟨rfl, hlen⟩
      obtain rfl : head = [] := by_contra fun h => (utf8Length_pos h).ne' hlen
      rfl
  | case2 n =>
    refine ⟨fun h => (Option.some_ne_none _ h.symm).elim, ?_⟩
    rintro ⟨htext, hlen⟩
    obtain ⟨rfl, -⟩ := List.append_eq_nil_iff.1 htext.symm
    cases hlen
  | case3 n c t hle ih =>
    rw [Option.map_eq_some_iff]
    constructor
    · rintro ⟨⟨head', rest'⟩, htake, ⟨⟩⟩
      obtain ⟨rfl, hlen⟩ := ih.1 htake
      exact ⟨rfl, by rw [utf8Length_cons, hlen]; omega⟩
    · rintro ⟨htext, hlen⟩
      cases head with
      | nil => cases hlen
      | cons d head =>
        obtain ⟨rfl, rfl⟩ := List.cons.inj htext
        rw [utf8Length_cons] at hlen
        exact ⟨(head, rest), ih.2 ⟨rfl, by omega⟩, rfl⟩
  | case4 n c t hlt =>
    refine ⟨fun h => (Option.some_ne_none _ h.symm).elim, ?_⟩
    rintro ⟨htext, hlen⟩
    cases head with
    | nil => cases hlen
    | cons d head =>
      obtain ⟨rfl, -⟩ := List.cons.inj htext
      rw [utf8Length_cons] at hlen
      omega

end Text

end Playbill
