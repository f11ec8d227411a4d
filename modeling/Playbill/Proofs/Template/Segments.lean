import Mathlib.Data.List.TakeWhile
import Mathlib.Tactic
import Playbill.Proofs.Text.Basic
import Playbill.Template.Basic

/-!
# The tokens of a template

A template is resolved in a single pass: the tokens that stand in it are found from left to right,
each is replaced on its own, and everything between them stays.

* `Placeholder.IsToken`: the grammar of tokens; `leading?_eq_some_iff`: the reader of tokens finds
  exactly what the grammar allows, so that at most one token starts a text.
* `Template.segments_append`: a text may be cut where no token goes across.
* `Template.Cut`: a text cut into tokens and the literals around them; `Template.Cut.Of`: no token
  starts inside a literal.
* `of_cons_iff`, `of_text_append_iff`: what such a cut is when no token starts the text, and when
  one does.
* `of_iff`: every text has one cut.
* `resolve_cut`: resolution shows each token of that cut in its place.
-/

namespace Playbill

namespace Placeholder

/-- The grammar of tokens: a path starts with a letter, `_` or `$`, and arguments are free of
parentheses and colons. -/
structure IsToken (p : Placeholder) : Prop where
  path_start : p.path.head?.any isPathStart
  path_char : ∀ c ∈ p.path, isPathChar c
  argument_char : ∀ arguments ∈ p.arguments, ∀ c ∈ arguments, isArgumentChar c

/-! ### Leading tokens -/

/-- A run of characters ends where the first other character stands. -/
theorem takeWhile_dropWhile_append {p : Char → Bool} {run : Text} (hrun : ∀ c ∈ run, p c)
    {d : Char} (hd : p d = false) (rest : Text) :
    (run ++ d :: rest).takeWhile p = run ∧ (run ++ d :: rest).dropWhile p = d :: rest :=
  Text.takeWhile_dropWhile_append hrun (by simp [hd])

theorem leadingArguments?_eq_some_iff {t arguments rest : Text} :
    leadingArguments? t = some (arguments, rest) ↔
      (∀ c ∈ arguments, isArgumentChar c) ∧ t = '(' :: arguments ++ ')' :: rest := by
  constructor
  · intro h
    unfold leadingArguments? at h
    split at h
    · rename_i u
      split at h
      · rename_i after hdrop
        obtain ⟨rfl, rfl⟩ : u.takeWhile isArgumentChar = arguments ∧ after = rest := by
          simpa using h
        refine ⟨fun c hc => List.mem_takeWhile_imp hc, ?_⟩
        rw [List.cons_append, ← hdrop, List.takeWhile_append_dropWhile]
      · cases h
    · cases h
  · rintro ⟨hchars, rfl⟩
    obtain ⟨htake, hdrop⟩ := takeWhile_dropWhile_append hchars (d := ')') (by decide) rest
    simp [leadingArguments?, htake, hdrop]

/-- The token that starts a text is the one whose written form starts it. -/
theorem leading?_eq_some_iff {t rest : Text} {p : Placeholder} :
    leading? t = some (p, rest) ↔ p.IsToken ∧ t = p.text ++ rest := by
  constructor
  · intro h
    unfold leading? at h
    split at h
    · rename_i u
      simp only at h
      split at h
      · rename_i hstart
        have hpath : ∀ c ∈ u.takeWhile isPathChar, isPathChar c :=
          fun c hc => List.mem_takeWhile_imp hc
        have hu := List.takeWhile_append_dropWhile (p := isPathChar) (l := u)
        split at h
        · rename_i after hdrop
          obtain ⟨rfl, rfl⟩ : ⟨u.takeWhile isPathChar, none⟩ = p ∧ after = rest := by simpa using h
          refine ⟨⟨hstart, hpath, by simp⟩, ?_⟩
          simp [text, ← hdrop, hu]
        · split at h
          · rename_i arguments after harguments
            obtain ⟨rfl, rfl⟩ : ⟨u.takeWhile isPathChar, some arguments⟩ = p ∧ after = rest := by
              simpa using h
            obtain ⟨hchars, hdrop⟩ := leadingArguments?_eq_some_iff.1 harguments
            refine ⟨⟨hstart, hpath, by simpa using hchars⟩, ?_⟩
            rw [hdrop] at hu
            simpa [text] using hu.symm
          · cases h
      · cases h
    · cases h
  -- Neither a colon nor a parenthesis belongs to a path, so the longest run of path characters is
  -- the path.
  · rintro ⟨⟨hstart, hpath, harguments⟩, rfl⟩
    obtain ⟨path, _ | arguments⟩ := p
    · obtain ⟨htake, hdrop⟩ := takeWhile_dropWhile_append hpath (d := ':') (by decide) rest
      simp [leading?, text, htake, hdrop, hstart]
    · obtain ⟨htake, hdrop⟩ := takeWhile_dropWhile_append hpath (d := '(') (by decide)
        (arguments ++ [')', ':'] ++ rest)
      have hread : leadingArguments? ('(' :: (arguments ++ [')', ':'] ++ rest)) =
          some (arguments, ':' :: rest) :=
        leadingArguments?_eq_some_iff.2 ⟨harguments arguments rfl, by simp⟩
      simp only [List.append_assoc, List.cons_append, List.nil_append] at htake hdrop hread
      simp [leading?, text, htake, hdrop, hstart, hread]

theorem leading?_of_ne {x : Char} (hx : x ≠ ':') (t : Text) : leading? (x :: t) = none := by
  unfold leading?
  split
  · rename_i heq
    exact absurd (List.cons.inj heq).1 hx
  · rfl

theorem leading?_append {t rest : Text} {p : Placeholder} (h : leading? t = some (p, rest))
    (u : Text) : leading? (t ++ u) = some (p, rest ++ u) := by
  obtain ⟨hp, rfl⟩ := leading?_eq_some_iff.1 h
  exact leading?_eq_some_iff.2 ⟨hp, List.append_assoc ..⟩

theorem leading?_eq_none_of_append {t u : Text} (h : leading? (t ++ u) = none) :
    leading? t = none := by
  cases ht : leading? t with
  | none => rfl
  | some found => exact absurd (leading?_append ht u) (by simp [h])

/-- The colons of a token are its first and its last character. -/
theorem IsToken.exists_text_eq {p : Placeholder} (hp : p.IsToken) :
    ∃ body : Text, ':' ∉ body ∧ p.text = ':' :: body ++ [':'] := by
  have hpath : ':' ∉ p.path := fun h => absurd (hp.path_char _ h) (by decide)
  obtain ⟨path, _ | arguments⟩ := p
  · exact ⟨path, hpath, by simp [text]⟩
  · have harguments : ':' ∉ arguments := fun h =>
      absurd (hp.argument_char _ rfl _ h) (by decide)
    exact ⟨path ++ '(' :: arguments ++ [')'], by simpa using ⟨hpath, harguments⟩, by simp [text]⟩

theorem text_ne_nil (p : Placeholder) : p.text ≠ [] := by
  simp [text]

/-- What a token shows in a context: a string as it is, a date in the format and locale of the
context, another value as compact JSON; a token that leads to nothing or to null shows itself. -/
def shown (c : Context) (p : Placeholder) : Text :=
  match c.find? p.path with
  | some (.json (.string value)) => value
  | some (.date value) =>
    (DatePattern.ofText c.dateFormat).render (Locale.ofCode c.dateLocale) value
  | some (.json .null) | none => p.text
  | some (.json value) => value.compact

end Placeholder

namespace Template

open Placeholder (IsToken leading? leading?_eq_some_iff leading?_of_ne shown)

/-! ### Segments -/

theorem segments_of_leading {t rest : Text} {p : Placeholder} (h : leading? t = some (p, rest)) :
    segments t = .placeholder p :: segments rest := by
  cases t with
  | nil => cases h
  | cons c t => rw [segments]; split <;> simp_all

theorem segments_of_none {c : Char} {t : Text} (h : leading? (c :: t) = none) :
    segments (c :: t) = .literal c :: segments t := by
  rw [segments]; split <;> simp_all

theorem segments_text_append {p : Placeholder} (hp : p.IsToken) (t : Text) :
    segments (p.text ++ t) = .placeholder p :: segments t :=
  segments_of_leading (Placeholder.leading?_eq_some_iff.2 ⟨hp, rfl⟩)

theorem isToken_of_mem_segments {p : Placeholder} {t : Text} (h : .placeholder p ∈ segments t) :
    p.IsToken := by
  fun_induction segments t with
  | case1 => cases h
  | case2 c rest q after hlead ih =>
    rcases List.mem_cons.1 h with h | h
    · obtain rfl := Segment.placeholder.inj h
      exact (leading?_eq_some_iff.1 hlead).1
    · exact ih h
  | case3 c rest hlead ih => exact ih ((List.mem_cons.1 h).resolve_left (by simp))

/-- A text may be cut where no token goes across. -/
theorem segments_append {u v : Text} (h : ∀ p, .placeholder p ∈ segments (u ++ v) →
    ∀ start rest, p.text = start ++ rest → rest <+: v → rest = []) :
    segments (u ++ v) = segments u ++ segments v := by
  induction hn : u.length using Nat.strongRecOn generalizing u with
  | _ n ih =>
  cases u with
  | nil => simp [segments]
  | cons x u =>
    cases hlead : leading? (x :: u ++ v) with
    | none =>
      have hsegments : segments (x :: u ++ v) = .literal x :: segments (u ++ v) :=
        segments_of_none hlead
      rw [hsegments,
        segments_of_none (Placeholder.leading?_eq_none_of_append hlead),
        ih u.length (by simp [← hn]) (fun p hp => h p (hsegments ▸ List.mem_cons_of_mem _ hp)) rfl]
      rfl
    | some found =>
      obtain ⟨p, rest⟩ := found
      have hsegments := segments_of_leading hlead
      obtain ⟨hp, htext⟩ := Placeholder.leading?_eq_some_iff.1 hlead
      -- The token ends before the cut.
      obtain ⟨between, hu, rfl⟩ : ∃ between, x :: u = p.text ++ between ∧ rest = between ++ v := by
        rcases List.append_eq_append_iff.1 htext with ⟨beyond, hbeyond, hv⟩ | hbefore
        · obtain rfl := h p (hsegments ▸ List.mem_cons_self) _ _ hbeyond ⟨rest, hv.symm⟩
          exact ⟨[], by simpa using hbeyond.symm, hv.symm⟩
        · exact hbefore
      have hlt : between.length < n := by
        have hpos := List.length_pos_of_ne_nil p.text_ne_nil
        rw [← hn, hu, List.length_append]
        omega
      rw [hsegments, hu, segments_text_append hp,
        ih _ hlt (fun q hq => h q (hsegments ▸ List.mem_cons_of_mem _ hq)) rfl]
      rfl

/-! ### Cuts -/

/-- Literals and tokens in turn, from a literal to a literal. -/
inductive Cut
  | last (literal : Text)
  | token (literal : Text) (placeholder : Placeholder) (rest : Cut)

/-- A token starts at a position of a text. -/
def TokenAt (t : Text) (i : Nat) : Prop :=
  ∃ p : Placeholder, p.IsToken ∧ p.text <+: t.drop i

namespace Cut

/-- The text with its tokens written in some way. -/
def write (f : Placeholder → Text) : Cut → Text
  | last literal => literal
  | token literal p rest => literal ++ f p ++ rest.write f

/-- The tokens in order. -/
def tokens : Cut → List Placeholder
  | last _ => []
  | token _ p rest => p :: rest.tokens

/-- A position of the text lies in a literal. -/
def InLiteral : Cut → Nat → Prop
  | last literal, i => i < literal.length
  | token literal p rest, i =>
    i < literal.length ∨
      (literal ++ p.text).length ≤ i ∧ rest.InLiteral (i - (literal ++ p.text).length)

/-- A text is cut into tokens and literals, and no token of the text starts inside a literal. -/
structure Of (t : Text) (cut : Cut) : Prop where
  text : cut.write Placeholder.text = t
  isToken : ∀ p ∈ cut.tokens, p.IsToken
  literal : ∀ i, TokenAt t i → ¬ cut.InLiteral i

/-- A character in front of the first literal. -/
def consChar (c : Char) : Cut → Cut
  | last literal => last (c :: literal)
  | token literal p rest => token (c :: literal) p rest

/-- The cut that a list of segments makes. -/
def ofSegments : List Segment → Cut
  | [] => last []
  | .literal c :: segments => (ofSegments segments).consChar c
  | .placeholder p :: segments => token [] p (ofSegments segments)

@[simp] theorem write_consChar (c : Char) (f : Placeholder → Text) (cut : Cut) :
    (cut.consChar c).write f = c :: cut.write f := by
  cases cut <;> rfl

@[simp] theorem tokens_consChar (c : Char) (cut : Cut) :
    (cut.consChar c).tokens = cut.tokens := by
  cases cut <;> rfl

@[simp] theorem inLiteral_consChar_succ (c : Char) (cut : Cut) (i : Nat) :
    (cut.consChar c).InLiteral (i + 1) ↔ cut.InLiteral i := by
  cases cut with
  | last => simp [consChar, InLiteral]
  | token literal p rest =>
    simp only [consChar, InLiteral, List.cons_append, List.length_cons, Nat.add_lt_add_iff_right,
      Nat.add_le_add_iff_right, Nat.add_sub_add_right]

@[simp] theorem inLiteral_token_nil (p : Placeholder) (cut : Cut) (i : Nat) :
    (token [] p cut).InLiteral i ↔ p.text.length ≤ i ∧ cut.InLiteral (i - p.text.length) := by
  simp [InLiteral]

end Cut

/-! ### Tokens at a position -/

theorem tokenAt_zero_iff {t : Text} : TokenAt t 0 ↔ ∃ p rest, leading? t = some (p, rest) := by
  simp only [TokenAt, List.drop_zero, Placeholder.leading?_eq_some_iff, exists_and_left]
  refine exists_congr fun p => and_congr_right fun _ => ?_
  simp only [List.IsPrefix, eq_comm]

theorem tokenAt_cons_succ {c : Char} {t : Text} {i : Nat} :
    TokenAt (c :: t) (i + 1) ↔ TokenAt t i :=
  Iff.rfl

theorem tokenAt_append {s t : Text} {i : Nat} : TokenAt (s ++ t) (s.length + i) ↔ TokenAt t i := by
  rw [TokenAt, List.drop_length_add_append]
  rfl

/-! ### Cuts -/

namespace Cut

theorem exists_eq_consChar {c : Char} {t : Text} (hnone : ¬ TokenAt (c :: t) 0) {cut : Cut}
    (h : cut.Of (c :: t)) : ∃ rest : Cut, cut = rest.consChar c := by
  cases cut with
  | last literal => exact ⟨last t, congrArg last h.text⟩
  | token literal p rest =>
    have htext := h.text
    cases literal with
    | nil =>
      exact absurd ⟨p, h.isToken p List.mem_cons_self, rest.write Placeholder.text, htext⟩ hnone
    | cons d literal =>
      obtain ⟨rfl, -⟩ := List.cons.inj htext
      exact ⟨token literal p rest, rfl⟩

/-- Where no token starts, the first character belongs to the first literal. -/
theorem of_consChar_iff {c : Char} {t : Text} (hnone : ¬ TokenAt (c :: t) 0) {cut : Cut} :
    (cut.consChar c).Of (c :: t) ↔ cut.Of t := by
  constructor
  · intro h
    exact ⟨by simpa using h.text, by simpa using h.isToken, fun i htoken hliteral =>
      h.literal (i + 1) (tokenAt_cons_succ.2 htoken) ((inLiteral_consChar_succ ..).2 hliteral)⟩
  · intro h
    refine ⟨by simpa using h.text, by simpa using h.isToken, fun i htoken hliteral => ?_⟩
    cases i with
    | zero => exact hnone htoken
    | succ i =>
      exact h.literal i (tokenAt_cons_succ.1 htoken) ((inLiteral_consChar_succ ..).1 hliteral)

theorem exists_eq_token {p : Placeholder} (hp : p.IsToken) {t : Text} {cut : Cut}
    (h : cut.Of (p.text ++ t)) : ∃ rest : Cut, cut = token [] p rest := by
  have hzero : ¬ cut.InLiteral 0 := h.literal 0 ⟨p, hp, List.prefix_append ..⟩
  have htext := h.text
  cases cut with
  | last literal =>
    obtain rfl : literal = [] := by simpa [InLiteral] using hzero
    exact absurd (List.append_eq_nil_iff.1 htext.symm).1 p.text_ne_nil
  | token literal q rest =>
    obtain rfl : literal = [] := by simpa [InLiteral] using fun h => hzero (.inl h)
    have hq := h.isToken q List.mem_cons_self
    -- At most one token starts a text.
    have hlead := Placeholder.leading?_eq_some_iff.2 ⟨hq, htext.symm⟩
    rw [Placeholder.leading?_eq_some_iff.2 ⟨hp, rfl⟩] at hlead
    obtain ⟨rfl, -⟩ := Prod.mk.inj (Option.some.inj hlead)
    exact ⟨rest, rfl⟩

/-- Where a token starts, it is cut off. -/
theorem of_token_iff {p : Placeholder} (hp : p.IsToken) {t : Text} {cut : Cut} :
    (token [] p cut).Of (p.text ++ t) ↔ cut.Of t := by
  constructor
  · intro h
    refine ⟨by simpa [write] using h.text, (List.forall_mem_cons.1 h.isToken).2, ?_⟩
    intro i htoken hliteral
    refine h.literal (p.text.length + i) (tokenAt_append.2 htoken) ?_
    rw [inLiteral_token_nil, Nat.add_sub_cancel_left]
    exact ⟨Nat.le_add_right .., hliteral⟩
  · intro h
    refine ⟨by simpa [write] using h.text, List.forall_mem_cons.2 ⟨hp, h.isToken⟩, ?_⟩
    intro i htoken hliteral
    obtain ⟨hle, hliteral⟩ := (inLiteral_token_nil ..).1 hliteral
    obtain ⟨j, rfl⟩ := Nat.exists_eq_add_of_le hle
    rw [Nat.add_sub_cancel_left] at hliteral
    exact h.literal j (tokenAt_append.1 htoken) hliteral

theorem of_nil_iff {cut : Cut} : cut.Of [] ↔ cut = last [] := by
  constructor
  · intro h
    cases cut with
    | last literal => exact congrArg last h.text
    | token literal p rest => exact absurd h.text (by simp [write, p.text_ne_nil])
  · rintro rfl
    exact ⟨rfl, by simp [tokens], by simp [InLiteral]⟩

/-- Every text has one cut, and its segments are its literals and tokens. -/
theorem of_iff (t : Text) (cut : Cut) : cut.Of t ↔ cut = ofSegments (segments t) := by
  fun_induction segments t generalizing cut with
  | case1 => exact of_nil_iff
  | case2 c rest p after hlead ih =>
    obtain ⟨hp, htext⟩ := Placeholder.leading?_eq_some_iff.1 hlead
    rw [htext]
    constructor
    · intro h
      obtain ⟨cut, rfl⟩ := exists_eq_token hp h
      rw [(ih cut).1 ((of_token_iff hp).1 h), ofSegments]
    · rintro rfl
      exact (of_token_iff hp).2 ((ih _).2 rfl)
  | case3 c rest hlead ih =>
    have hnone : ¬ TokenAt (c :: rest) 0 := by
      rw [tokenAt_zero_iff, hlead]
      simp
    constructor
    · intro h
      obtain ⟨cut, rfl⟩ := exists_eq_consChar hnone h
      rw [(ih cut).1 ((of_consChar_iff hnone).1 h), ofSegments]
    · rintro rfl
      exact (of_consChar_iff hnone).2 ((ih _).2 rfl)

end Cut

/-! ### Resolution -/

section

variable {c : Context}

theorem resolve_nil : resolve c [] = [] := by
  simp [resolve, segments]

theorem resolve_text_append {p : Placeholder} (hp : p.IsToken) (t : Text) :
    resolve c (p.text ++ t) = resolveSegment c (.placeholder p) ++ resolve c t := by
  rw [resolve, segments_text_append hp, List.flatMap_cons, resolve]

theorem resolve_of_none {x : Char} {t : Text} (h : leading? (x :: t) = none) :
    resolve c (x :: t) = x :: resolve c t := by
  rw [resolve, segments_of_none h, List.flatMap_cons, resolve]
  rfl

theorem resolve_cons_of_ne {x : Char} (hx : x ≠ ':') (t : Text) :
    resolve c (x :: t) = x :: resolve c t :=
  resolve_of_none (leading?_of_ne hx t)

theorem resolve_append_of_notMem {u : Text} (hu : ':' ∉ u) (t : Text) :
    resolve c (u ++ t) = u ++ resolve c t := by
  induction u with
  | nil => rfl
  | cons x u ih =>
    rw [List.mem_cons, not_or] at hu
    rw [List.cons_append, resolve_cons_of_ne (Ne.symm hu.1), ih hu.2, List.cons_append]

end

theorem resolve_of_notMem (c : Context) {t : Text} (ht : ':' ∉ t) : resolve c t = t := by
  have happend := resolve_append_of_notMem (c := c) ht []
  rwa [List.append_nil, resolve_nil, List.append_nil] at happend

theorem resolveSegment_placeholder (c : Context) (p : Placeholder) :
    resolveSegment c (.placeholder p) = shown c p := by
  simp only [resolveSegment, shown]
  rcases c.find? p.path with _ | (_ | _ | _ | _ | _ | _) | _ <;> rfl

theorem flatMap_resolveSegment (c : Context) (segments : List Segment) :
    segments.flatMap (resolveSegment c) = (Cut.ofSegments segments).write (shown c) := by
  induction segments with
  | nil => rfl
  | cons segment segments ih =>
    rw [List.flatMap_cons, ih]
    cases segment with
    | literal char => rw [Cut.ofSegments, Cut.write_consChar]; rfl
    | placeholder p => rw [Cut.ofSegments, Cut.write, resolveSegment_placeholder]; rfl

/-- **Single-pass resolution.**  Every text has one cut into literals and tokens such that no token
starts inside a literal, and resolution shows each token of that cut in its place; what a token shows
does not depend on its arguments, unless it shows itself. -/
theorem resolve_cut (t : Text) :
    ∃ cut : Cut, (∀ other : Cut, other.Of t ↔ other = cut) ∧
      (∀ c : Context, resolve c t = cut.write (shown c)) ∧
      ∀ (c : Context) (path : Text),
        (∃ value, ∀ arguments, shown c ⟨path, arguments⟩ = value) ∨
          ∀ arguments, shown c ⟨path, arguments⟩ = Placeholder.text ⟨path, arguments⟩ := by
  refine ⟨Cut.ofSegments (segments t), Cut.of_iff t, fun c => flatMap_resolveSegment c _, ?_⟩
  intro c path
  simp only [← resolveSegment_placeholder, resolveSegment]
  cases (c.find? path).bind (render? c) with
  | none => exact .inr fun _ => rfl
  | some value => exact .inl ⟨value, fun _ => rfl⟩

/-- The colon that ends a token starts no other, and arguments are part of a token. -/
example : Cut.ofSegments (segments "1:a:b:c(2)::") =
    .token ['1'] ⟨['a'], none⟩ (.token ['b'] ⟨['c'], some ['2']⟩ (.last [':'])) := by
  cbv

end Template

end Playbill
