import Mathlib.Tactic
import Playbill.Json.Printer
import Playbill.Proofs.Text.Basic

/-!
# The characters of compact JSON

* `IsPlain`: a character that stands for itself inside a string literal; `escape_of_isPlain`.
* `prefix_of_escaped`: plain characters at the start of an escaped text start the text itself.
* `isNumberChar_of_mem_text`: what numbers are written with.
-/

namespace Playbill.Json

/-! ### String literals -/

/-- A character that stands for itself inside a string literal. -/
structure IsPlain (c : Char) : Prop where
  ne_quote : c ≠ '"'
  ne_backslash : c ≠ '\\'
  le_toNat : 0x20 ≤ c.toNat

instance (c : Char) : Decidable (IsPlain c) :=
  decidable_of_iff (c ≠ '"' ∧ c ≠ '\\' ∧ 0x20 ≤ c.toNat)
    ⟨fun h => ⟨h.1, h.2.1, h.2.2⟩, fun h => ⟨h.1, h.2, h.3⟩⟩

theorem escapeChar_of_isPlain {c : Char} (hc : IsPlain c) : escapeChar c = [c] := by
  have hle := hc.le_toNat
  simp only [escapeChar, beq_iff_eq, if_neg hc.ne_quote, if_neg hc.ne_backslash]
  repeat rw [if_neg (by omega)]

theorem escape_of_isPlain {t : Text} (ht : ∀ c ∈ t, IsPlain c) : t.flatMap escapeChar = t := by
  induction t with
  | nil => rfl
  | cons c t ih =>
    rw [List.forall_mem_cons] at ht
    rw [List.flatMap_cons, escapeChar_of_isPlain ht.1, ih ht.2]
    rfl

/-- A character stands for itself, or a backslash starts its escape. -/
theorem escapeChar_cases (c : Char) :
    escapeChar c = [c] ∨ ∃ rest, escapeChar c = '\\' :: rest := by
  unfold escapeChar
  split_ifs <;> first | exact .inr ⟨_, rfl⟩ | exact .inl rfl

/-- No escape holds a colon. -/
theorem colon_notMem_escapeChar {c : Char} (hc : c ≠ ':') : ':' ∉ escapeChar c := by
  have hhex : ∀ n < 0x20, ':' ∉ hexByte n := by decide
  unfold escapeChar
  split_ifs with _ _ _ _ _ _ _ hcontrol
  · decide
  · decide
  · decide
  · decide
  · decide
  · decide
  · decide
  · simpa using hhex _ hcontrol
  · simpa using hc.symm

/-- Plain characters at the start of the rest of a string literal start the text that is written
there. -/
theorem prefix_of_escaped {start t rest : Text} (hstart : ∀ c ∈ start, IsPlain c)
    (h : start <+: t.flatMap escapeChar ++ '"' :: rest) : start <+: t := by
  induction start generalizing t with
  | nil => exact List.nil_prefix
  | cons c start ih =>
    rw [List.forall_mem_cons] at hstart
    cases t with
    | nil => exact absurd (List.cons_prefix_cons.1 h).1 hstart.1.ne_quote
    | cons d t =>
      rw [List.flatMap_cons] at h
      rcases escapeChar_cases d with hd | ⟨escape, hd⟩
      · rw [hd] at h
        obtain ⟨rfl, hrest⟩ := List.cons_prefix_cons.1 h
        exact List.cons_prefix_cons.2 ⟨rfl, ih hstart.2 hrest⟩
      · rw [hd] at h
        exact absurd (List.cons_prefix_cons.1 h).1 hstart.1.ne_backslash

/-! ### Numbers -/

/-- The characters that numbers are written with. -/
def isNumberChar (c : Char) : Bool :=
  isAsciiDigit c || c == '-' || c == '+' || c == '.' || c == 'e'

theorem isNumberChar_of_isAsciiDigit {c : Char} (hc : isAsciiDigit c) : isNumberChar c := by
  simp [isNumberChar, hc]

theorem isNumberChar_of_mem_ofNat {n : Nat} : ∀ c ∈ Text.ofNat n, isNumberChar c :=
  fun _ hc => isNumberChar_of_isAsciiDigit (Text.isAsciiDigit_of_mem_ofNat hc)

theorem isNumberChar_of_mem_digits (x : Binary64) :
    ∀ c ∈ (Shortest.digits x).1, isNumberChar c := by
  intro c hc
  simp only [Shortest.digits] at hc
  split_ifs at hc
  · obtain rfl := List.mem_singleton.1 hc
    rfl
  · exact isNumberChar_of_mem_ofNat c
      (List.mem_reverse.1 ((List.dropWhile_suffix _).subset (List.mem_reverse.1 hc)))

theorem isNumberChar_of_mem_positional {digits : Text} (hdigits : ∀ c ∈ digits, isNumberChar c)
    (leading : Int) : ∀ c ∈ Shortest.positional digits leading, isNumberChar c := by
  have hzeros (n : Nat) : ∀ c ∈ List.replicate n '0', isNumberChar c :=
    fun c hc => List.eq_of_mem_replicate hc ▸ rfl
  have htake (n : Nat) : ∀ c ∈ digits.take n, isNumberChar c :=
    fun c hc => hdigits c (List.mem_of_mem_take hc)
  have hdrop (n : Nat) : ∀ c ∈ digits.drop n, isNumberChar c :=
    fun c hc => hdigits c (List.mem_of_mem_drop hc)
  simp only [Shortest.positional]
  split_ifs
  · exact List.forall_mem_append.2
      ⟨List.forall_mem_append.2 ⟨List.all_eq_true.1 rfl, hzeros _⟩, hdigits⟩
  · exact List.forall_mem_append.2 ⟨htake _, hzeros _⟩
  · exact List.forall_mem_append.2 ⟨List.forall_mem_append.2
      ⟨List.forall_mem_append.2 ⟨htake _, hzeros _⟩, List.all_eq_true.1 rfl⟩, hdrop _⟩

theorem isNumberChar_of_mem_scientific {digits : Text} (hdigits : ∀ c ∈ digits, isNumberChar c)
    (leading : Int) : ∀ c ∈ Shortest.scientific digits leading, isNumberChar c := by
  simp only [Shortest.scientific]
  refine List.forall_mem_append.2 ⟨List.forall_mem_append.2 ⟨?_, List.all_eq_true.1 rfl⟩, ?_⟩
  · match digits, hdigits with
    | [], _ => exact List.all_eq_true.1 rfl
    | [d], h => exact h
    | d :: e :: rest, h =>
      rw [List.forall_mem_cons] at h
      exact List.forall_mem_cons.2 ⟨h.1, List.forall_mem_cons.2 ⟨rfl, h.2⟩⟩
  · split_ifs
    · exact List.forall_mem_cons.2 ⟨rfl, isNumberChar_of_mem_ofNat⟩
    · exact List.forall_mem_cons.2 ⟨rfl, isNumberChar_of_mem_ofNat⟩

theorem isNumberChar_of_mem_text (n : Number) : ∀ c ∈ n.text, isNumberChar c := by
  cases n with
  | int n =>
    cases n with
    | ofNat n => exact isNumberChar_of_mem_ofNat
    | negSucc n => exact List.forall_mem_cons.2 ⟨rfl, isNumberChar_of_mem_ofNat⟩
  | float x =>
    have hsign : ∀ c ∈ Shortest.sign x, isNumberChar c := by
      unfold Shortest.sign
      split_ifs <;> exact List.all_eq_true.1 rfl
    have hdigits := isNumberChar_of_mem_digits x
    simp only [Number.text, Shortest.json]
    split_ifs
    · exact List.forall_mem_append.2 ⟨hsign, List.all_eq_true.1 rfl⟩
    · exact List.forall_mem_append.2 ⟨List.forall_mem_append.2
        ⟨hsign, isNumberChar_of_mem_positional hdigits _⟩, List.all_eq_true.1 rfl⟩
    · exact List.forall_mem_append.2 ⟨List.forall_mem_append.2
        ⟨hsign, isNumberChar_of_mem_positional hdigits _⟩, List.all_eq_true.1 rfl⟩
    · exact List.forall_mem_append.2 ⟨hsign, isNumberChar_of_mem_scientific hdigits _⟩

end Playbill.Json
