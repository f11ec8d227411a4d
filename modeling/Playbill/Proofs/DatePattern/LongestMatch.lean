import Playbill.Proofs.DatePattern.NamedMonths

/-!
# Compiling formats

A format is read from left to right in stretches: a bracketed one as far as the next closing bracket,
else the longest token that matches, else one character.  Its parts are the tokens among the
stretches, and one literal for all stretches between two tokens.

* `DateToken.leading?_eq_some_iff`: the token that leads a text is the longest that starts it.
* `DatePattern.Stretch`: a stretch, with its text as it is `written` and as it is `kept`.
* `DatePattern.Stretch.Starts`: a stretch is read at the start of a text; `Starts.unique`: no other
  is.
* `DatePattern.IsReading`: the stretches of a format from left to right.
* `DatePattern.Joined`: the parts that stretches are joined to; `joined_scan`: those of a format are
  joined from its stretches.
* `DatePattern.ofText_longestMatch`: a format is cut in one way, and nothing of it is lost but the
  brackets.
-/

namespace Playbill

/-! ### Tokens -/

namespace DateToken

theorem mem_all (token : DateToken) : token ∈ all := by
  cases token <;> decide

/-- The tokens are tried from the longest pattern to the shortest. -/
theorem pairwise_all :
    all.Pairwise fun first later => later.pattern.length ≤ first.pattern.length := by
  decide

theorem pattern_injective : Function.Injective pattern := by
  have hnodup : (all.map pattern).Nodup := by decide
  intro token other h
  exact List.inj_on_of_nodup_map hnodup (mem_all token) (mem_all other) h

theorem head?_pattern (token : DateToken) : ∃ c rest, token.pattern = c :: rest ∧ c ≠ '[' := by
  cases token <;> exact ⟨_, _, rfl, by decide⟩

theorem leading?_eq_none_iff {t : Text} :
    leading? t = none ↔ ∀ token : DateToken, ¬ token.pattern <+: t := by
  rw [leading?, List.findSome?_eq_none_iff]
  constructor
  · rintro h token ⟨rest, rfl⟩
    have hnone := h token (mem_all token)
    rw [Text.dropLeading?_eq_some_iff.2 rfl] at hnone
    cases hnone
  · intro h token _
    rw [Option.map_eq_none_iff, Option.eq_none_iff_forall_ne_some]
    intro rest hrest
    exact h token ⟨rest, (Text.dropLeading?_eq_some_iff.1 hrest).symm⟩

/-- The first token that is found is one of the longest. -/
theorem longest_of_leading? {t rest : Text} {token : DateToken}
    (h : leading? t = some (token, rest)) :
    t = token.pattern ++ rest ∧
      ∀ other : DateToken, other.pattern <+: t → other.pattern.length ≤ token.pattern.length := by
  obtain ⟨before, first, later, hall, hfirst, hbefore⟩ := List.findSome?_eq_some_iff.1 h
  obtain ⟨rest', hdrop, hpair⟩ := Option.map_eq_some_iff.1 hfirst
  obtain ⟨rfl, rfl⟩ := Prod.mk.inj hpair
  refine ⟨Text.dropLeading?_eq_some_iff.1 hdrop, ?_⟩
  rintro other ⟨after, rfl⟩
  have hordered := pairwise_all
  rw [hall, List.pairwise_append, List.pairwise_cons] at hordered
  have hmem := mem_all other
  rw [hall, List.mem_append, List.mem_cons] at hmem
  rcases hmem with hmem | rfl | hmem
  · have hnone := hbefore other hmem
    rw [Text.dropLeading?_eq_some_iff.2 rfl] at hnone
    cases hnone
  · exact le_rfl
  · exact hordered.2.1.1 other hmem

/-- The token that leads a text is the longest that starts it. -/
theorem leading?_eq_some_iff {t rest : Text} {token : DateToken} :
    leading? t = some (token, rest) ↔ t = token.pattern ++ rest ∧
      ∀ other : DateToken, other.pattern <+: t → other.pattern.length ≤ token.pattern.length := by
  refine ⟨longest_of_leading?, ?_⟩
  rintro ⟨ht, hlongest⟩
  cases hlead : leading? t with
  | none => exact absurd ⟨rest, ht.symm⟩ (leading?_eq_none_iff.1 hlead token)
  | some found =>
    obtain ⟨other, after⟩ := found
    obtain ⟨ht', hlongest'⟩ := longest_of_leading? hlead
    -- Neither of the two patterns is longer than the other, so they are equal.
    have hlength : other.pattern.length = token.pattern.length :=
      Nat.le_antisymm (hlongest other ⟨after, ht'.symm⟩) (hlongest' token ⟨rest, ht.symm⟩)
    obtain ⟨hpattern, rfl⟩ := List.append_inj (ht'.symm.trans ht) hlength
    rw [pattern_injective hpattern]

end DateToken

/-- The letters of a token, or the text of a literal. -/
def FormatPart.text : FormatPart → Text
  | .token t => t.pattern
  | .literal t => t

namespace DatePattern

/-! ### Brackets -/

theorem bracketed?_append {body : Text} (h : ']' ∉ body) (rest : Text) :
    bracketed? ('[' :: (body ++ ']' :: rest)) = some (body, rest) := by
  have hinside : ∀ c ∈ body, (c != ']') = true := by
    intro c hc
    exact bne_iff_ne.2 fun heq => h (heq ▸ hc)
  have hstop : ¬ (']' :: rest).head?.any (· != ']') := by simp
  obtain ⟨htake, hdrop⟩ := Text.takeWhile_dropWhile_append hinside hstop
  simp only [bracketed?, htake, hdrop]

theorem bracketed?_of_ne {c : Char} (h : c ≠ '[') (rest : Text) :
    bracketed? (c :: rest) = none := by
  unfold bracketed?
  split
  · rename_i heq
    exact absurd (List.cons.inj heq).1 h
  · rfl

theorem bracketed?_of_notMem {rest : Text} (h : ']' ∉ rest) :
    bracketed? ('[' :: rest) = none := by
  have hdrop : rest.dropWhile (· != ']') = [] := by
    rw [List.dropWhile_eq_nil_iff]
    intro c hc
    exact bne_iff_ne.2 fun heq => h (heq ▸ hc)
  simp only [bracketed?, hdrop]

/-- A bracketed stretch reaches to the next closing bracket. -/
theorem bracketed?_eq_some_iff {t body rest : Text} :
    bracketed? t = some (body, rest) ↔ t = '[' :: (body ++ ']' :: rest) ∧ ']' ∉ body := by
  constructor
  · intro h
    cases t with
    | nil => cases h
    | cons c t =>
      by_cases hc : c = '['
      · subst hc
        by_cases hmem : ']' ∈ t
        · obtain ⟨body', rest', rfl, hbody⟩ := List.eq_append_cons_of_mem hmem
          rw [bracketed?_append hbody] at h
          obtain ⟨rfl, rfl⟩ := Prod.mk.inj (Option.some.inj h)
          exact ⟨rfl, hbody⟩
        · rw [bracketed?_of_notMem hmem] at h
          cases h
      · rw [bracketed?_of_ne hc] at h
        cases h
  · rintro ⟨rfl, hbody⟩
    exact bracketed?_append hbody rest

theorem bracketed?_eq_none_iff {c : Char} {rest : Text} :
    bracketed? (c :: rest) = none ↔ (c = '[' → ']' ∉ rest) := by
  constructor
  · rintro h rfl hmem
    obtain ⟨body, after, rfl, hbody⟩ := List.eq_append_cons_of_mem hmem
    rw [bracketed?_append hbody] at h
    cases h
  · intro h
    by_cases hc : c = '['
    · subst hc
      exact bracketed?_of_notMem (h rfl)
    · exact bracketed?_of_ne hc rest

/-! ### Stretches -/

/-- A stretch of a format: literal text between brackets, a token, or a single character. -/
inductive Stretch
  | bracketed (body : Text)
  | unit (token : DateToken)
  | plain (c : Char)

namespace Stretch

/-- The text of a stretch in the format. -/
def written : Stretch → Text
  | bracketed body => '[' :: (body ++ [']'])
  | unit token => token.pattern
  | plain c => [c]

/-- The text of a stretch without its brackets. -/
def kept : Stretch → Text
  | bracketed body => body
  | unit token => token.pattern
  | plain c => [c]

/-- Whether a stretch is literal. -/
def isLiteral : Stretch → Bool
  | unit _ => false
  | _ => true

/-- A stretch is read before some text: brackets reach to the next closing one, no token that
matches is longer than the one taken, and a single character is no bracket that is closed later and
starts no token. -/
def Fits : Stretch → Text → Prop
  | bracketed body, _ => ']' ∉ body
  | unit token, rest => ∀ other : DateToken, other.pattern <+: token.pattern ++ rest →
      other.pattern.length ≤ token.pattern.length
  | plain c, rest => (c = '[' → ']' ∉ rest) ∧ ∀ token : DateToken, ¬ token.pattern <+: c :: rest

/-- A stretch is read at the start of a text and leaves the rest. -/
def Starts (s : Stretch) (t rest : Text) : Prop :=
  t = s.written ++ rest ∧ s.Fits rest

variable {s s' : Stretch} {t rest rest' : Text}

theorem written_ne_nil (s : Stretch) : s.written ≠ [] := by
  cases s with
  | bracketed body => exact List.cons_ne_nil _ _
  | unit token => exact List.ne_nil_of_length_pos (pattern_length_pos token)
  | plain c => exact List.cons_ne_nil _ _

theorem starts_bracketed_iff {body : Text} :
    (bracketed body).Starts t rest ↔ bracketed? t = some (body, rest) := by
  rw [bracketed?_eq_some_iff, Starts, written, List.cons_append, List.append_assoc]
  rfl

/-- No token starts with a bracket, so that those are looked for first makes no difference. -/
theorem starts_unit_iff {token : DateToken} :
    (unit token).Starts t rest ↔
      bracketed? t = none ∧ DateToken.leading? t = some (token, rest) := by
  rw [DateToken.leading?_eq_some_iff]
  constructor
  · rintro ⟨rfl, hlongest⟩
    obtain ⟨c, letters, hpattern, hc⟩ := token.head?_pattern
    refine ⟨?_, rfl, hlongest⟩
    rw [written, hpattern, List.cons_append]
    exact bracketed?_of_ne hc _
  · rintro ⟨-, rfl, hlongest⟩
    exact ⟨rfl, hlongest⟩

theorem starts_plain_iff {c : Char} :
    (plain c).Starts t rest ↔
      t = c :: rest ∧ bracketed? t = none ∧ DateToken.leading? t = none := by
  constructor
  · rintro ⟨rfl, hbracket, hnone⟩
    exact ⟨rfl, bracketed?_eq_none_iff.2 hbracket, DateToken.leading?_eq_none_iff.2 hnone⟩
  · rintro ⟨rfl, hbracket, hnone⟩
    exact ⟨rfl, bracketed?_eq_none_iff.1 hbracket, DateToken.leading?_eq_none_iff.1 hnone⟩

/-- The stretch at the start of a text, with the rest. -/
def next? (t : Text) : Option (Stretch × Text) :=
  match bracketed? t with
  | some (body, rest) => some (bracketed body, rest)
  | none =>
    match DateToken.leading? t with
    | some (token, rest) => some (unit token, rest)
    | none => t.head?.map fun c => (plain c, t.tail)

theorem Starts.next?_eq (h : s.Starts t rest) : next? t = some (s, rest) := by
  cases s with
  | bracketed body => rw [next?, starts_bracketed_iff.1 h]
  | unit token =>
    obtain ⟨hbracket, hlead⟩ := starts_unit_iff.1 h
    rw [next?, hbracket, hlead]
  | plain c =>
    obtain ⟨rfl, hbracket, hlead⟩ := starts_plain_iff.1 h
    rw [next?, hbracket, hlead]
    rfl

/-- One stretch at most is read at the start of a text. -/
theorem Starts.unique (h : s.Starts t rest) (h' : s'.Starts t rest') : s = s' ∧ rest = rest' :=
  Prod.mk.inj (Option.some.inj (h.next?_eq.symm.trans h'.next?_eq))

end Stretch

/-! ### Readings -/

/-- The stretches of a format from left to right: together they are the format, and each is read
where it stands. -/
structure IsReading (format : Text) (stretches : List Stretch) : Prop where
  written : stretches.flatMap Stretch.written = format
  fits : ∀ s after, s :: after <:+ stretches → s.Fits (after.flatMap Stretch.written)

namespace IsReading

variable {format : Text} {s : Stretch} {ss ss' : List Stretch}

theorem cons_iff : IsReading format (s :: ss) ↔ ∃ rest, s.Starts format rest ∧ IsReading rest ss := by
  constructor
  · intro h
    refine ⟨ss.flatMap Stretch.written, ⟨?_, h.fits s ss List.suffix_rfl⟩, rfl, ?_⟩
    · rw [← h.written, List.flatMap_cons]
    · intro next after hsuffix
      exact h.fits next after (hsuffix.trans (List.suffix_cons s ss))
  · rintro ⟨rest, ⟨rfl, hfits⟩, rfl, hlater⟩
    refine ⟨List.flatMap_cons, fun next after hsuffix => ?_⟩
    rcases List.suffix_cons_iff.1 hsuffix with heq | hsuffix
    · obtain ⟨rfl, rfl⟩ := List.cons.inj heq
      exact hfits
    · exact hlater next after hsuffix

theorem nil_iff : IsReading format [] ↔ format = [] := by
  constructor
  · intro h
    exact h.written.symm
  · rintro rfl
    exact ⟨rfl, fun s after hsuffix => absurd (List.suffix_nil.1 hsuffix) (List.cons_ne_nil s after)⟩

/-- A format has one reading. -/
theorem unique (h : IsReading format ss) (h' : IsReading format ss') : ss = ss' := by
  have hnil (s : Stretch) (rest : Text) : ¬ s.Starts [] rest := by
    rintro ⟨hnil, -⟩
    exact s.written_ne_nil (List.append_eq_nil_iff.1 hnil.symm).1
  induction ss generalizing format ss' with
  | nil =>
    cases nil_iff.1 h
    cases ss' with
    | nil => rfl
    | cons s' ss' =>
      obtain ⟨rest, hstarts, -⟩ := cons_iff.1 h'
      exact absurd hstarts (hnil s' rest)
  | cons s ss ih =>
    obtain ⟨rest, hstarts, hrest⟩ := cons_iff.1 h
    cases ss' with
    | nil =>
      cases nil_iff.1 h'
      exact absurd hstarts (hnil s rest)
    | cons s' ss' =>
      obtain ⟨rest', hstarts', hrest'⟩ := cons_iff.1 h'
      obtain ⟨rfl, rfl⟩ := hstarts.unique hstarts'
      rw [ih hrest hrest']

/-- There are no more stretches than characters. -/
theorem length_le (h : IsReading format ss) : ss.length ≤ format.length := by
  induction ss generalizing format with
  | nil => exact Nat.zero_le _
  | cons s ss ih =>
    obtain ⟨rest, ⟨rfl, -⟩, hrest⟩ := cons_iff.1 h
    have hlater := ih hrest
    have hpos := List.length_pos_of_ne_nil s.written_ne_nil
    rw [List.length_cons, List.length_append]
    omega

end IsReading

/-! ### Parts -/

/-- Stretches are joined to parts: a token is a part of its own, and stretches of literal text, one
or more, are a single literal. -/
inductive Joined : List Stretch → List FormatPart → Prop
  | nil : Joined [] []
  | token {token : DateToken} {ss : List Stretch} {parts : List FormatPart} :
      Joined ss parts → Joined (.unit token :: ss) (.token token :: parts)
  | literal {run ss : List Stretch} {parts : List FormatPart} : run ≠ [] →
      (∀ s ∈ run, s.isLiteral) → Joined ss parts →
      Joined (run ++ ss) (.literal (run.flatMap Stretch.kept) :: parts)

namespace Joined

variable {s : Stretch} {ss : List Stretch} {parts : List FormatPart}

theorem single (hs : s.isLiteral) (h : Joined ss parts) :
    Joined (s :: ss) (.literal s.kept :: parts) := by
  have hjoined : Joined ([s] ++ ss) (.literal ([s].flatMap Stretch.kept) :: parts) :=
    .literal (List.cons_ne_nil s []) (List.forall_mem_singleton.2 hs) h
  rwa [List.flatMap_singleton] at hjoined

/-- A stretch of literal text joins the literal after it. -/
theorem consPart (hs : s.isLiteral) (h : Joined ss parts) :
    Joined (s :: ss) (consPart (.literal s.kept) parts) := by
  cases h with
  | nil => exact .single hs .nil
  | token h => exact .single hs (.token h)
  | literal hne hrun h =>
    rename_i run ss parts
    have hjoined : Joined (s :: run ++ ss) (.literal ((s :: run).flatMap Stretch.kept) :: parts) :=
      .literal (List.cons_ne_nil s run) (List.forall_mem_cons.2 ⟨hs, hrun⟩) h
    rwa [List.flatMap_cons] at hjoined

/-- Nothing is lost where stretches are joined. -/
theorem flatMap_text (h : Joined ss parts) :
    parts.flatMap FormatPart.text = ss.flatMap Stretch.kept := by
  induction h with
  | nil => rfl
  | token _ ih => rw [List.flatMap_cons, List.flatMap_cons, ih]; rfl
  | literal _ _ _ ih => rw [List.flatMap_cons, List.flatMap_append, ih]; rfl

end Joined

/-- The parts of a format are joined from the stretches that it is read in. -/
theorem joined_scan (t : Text) : ∃ ss, IsReading t ss ∧ Joined ss (scan t) := by
  fun_induction scan t with
  | case1 => exact ⟨[], IsReading.nil_iff.2 rfl, .nil⟩
  | case2 c t body after hbracket ih =>
    obtain ⟨ss, hreading, hjoined⟩ := ih
    refine ⟨.bracketed body :: ss, IsReading.cons_iff.2 ⟨after, ?_, hreading⟩, hjoined.consPart rfl⟩
    exact Stretch.starts_bracketed_iff.2 hbracket
  | case3 c t hbracket token after htoken ih =>
    obtain ⟨ss, hreading, hjoined⟩ := ih
    refine ⟨.unit token :: ss, IsReading.cons_iff.2 ⟨after, ?_, hreading⟩, hjoined.token⟩
    exact Stretch.starts_unit_iff.2 ⟨hbracket, htoken⟩
  | case4 c t hbracket htoken ih =>
    obtain ⟨ss, hreading, hjoined⟩ := ih
    refine ⟨.plain c :: ss, IsReading.cons_iff.2 ⟨t, ?_, hreading⟩, hjoined.consPart rfl⟩
    exact Stretch.starts_plain_iff.2 ⟨rfl, hbracket, htoken⟩

/-- **Longest match.**  A format is read in stretches in one way only, from left to right: an opening
bracket that is closed later goes with the text up to the next closing one, wherever else some token
matches the longest is taken, and every other character stands for itself.  The tokens among the
stretches are those of the parts, the literal text between them is joined, so that no two literals
are neighbours, and nothing is left out but the brackets of the bracketed stretches. -/
theorem ofText_longestMatch (format : Text) :
    ∃ ss : List Stretch, (∀ other, IsReading format other ↔ other = ss) ∧
      ss.length ≤ format.length ∧ Joined ss (ofText format).parts ∧
      (ofText format).parts.flatMap FormatPart.text = ss.flatMap Stretch.kept ∧
      (ofText format).parts.IsChain Apart := by
  obtain ⟨ss, hreading, hjoined⟩ := joined_scan format
  refine ⟨ss, fun other => ?_, hreading.length_le, hjoined, hjoined.flatMap_text,
    isChain_scan format⟩
  constructor
  · intro hother
    exact hother.unique hreading
  · rintro rfl
    exact hreading

/-- An ordinal day before a day, and a bracket that nothing closes before a day of two digits. -/
example : (ofText "[D]DoD[DD").parts =
    [.literal ['D'], .token .dayOrdinal, .token .day, .literal ['['], .token .day2] := by
  cbv

end DatePattern

end Playbill
