import Playbill.Proofs.Selector.Lexemes

/-!
# Commas between tokens

A comma that is put behind a text ends the token before it, or that token goes on past the comma.

* `StopsOrPasses`: so it is for one reader; `StopsOrPasses.andThen`, `StopsOrPasses.ite`: for
  readers in turn, and for a choice between them.
* `name_stopsOrPasses`, `stringBody_stopsOrPasses`, `numeric_stopsOrPasses`,
  `urlBody_stopsOrPasses`, `lexeme?_stopsOrPasses`: so it is for the readers of tokens.
* `lexemes_append_comma`: the tokens fall apart at the comma, unless fewer of the commas than there
  are stand among them.
-/

namespace Playbill.Css

/-! ### Before a comma -/

variable {α β : Type} {t rest : Text}

/-- Where a comma and more is put behind a text, a reader reads the same as before and stops at the
comma, or it goes past the comma. -/
def StopsOrPasses (read : Text → α × Text) (t rest : Text) : Prop :=
  read (t ++ ',' :: rest) = ((read t).1, (read t).2 ++ ',' :: rest) ∨
    (read (t ++ ',' :: rest)).2 <:+ rest

/-- One reader after another. -/
theorem StopsOrPasses.andThen {read : Text → α × Text} {next : α → Text → β × Text}
    (h : StopsOrPasses read t rest)
    (hnext : StopsOrPasses (next (read t).1) (read t).2 rest)
    (hsuffix : ∀ a u, (next a u).2 <:+ u) :
    StopsOrPasses (fun u => next (read u).1 (read u).2) t rest := by
  rcases h with h | h
  · simpa only [StopsOrPasses, h] using hnext
  · exact .inr ((hsuffix _ _).trans h)

/-- A reader that goes on as another one does. -/
theorem StopsOrPasses.of_eq {read : Text → β × Text} {other : Text → α × Text} {u : Text}
    (h : StopsOrPasses other u rest) (f : α → β) (hself : read t = (f (other u).1, (other u).2))
    (happend : read (t ++ ',' :: rest) =
      (f (other (u ++ ',' :: rest)).1, (other (u ++ ',' :: rest)).2)) :
    StopsOrPasses read t rest := by
  rw [StopsOrPasses, hself, happend]
  exact h.imp (fun h => by rw [h]) id

theorem StopsOrPasses.stop (a : α) : StopsOrPasses (fun u => (a, u)) t rest :=
  .inl rfl

/-- A choice that the comma has no part in. -/
theorem StopsOrPasses.ite {condition : Text → Bool} {yes no : Text → α × Text}
    (hcondition : condition (t ++ ',' :: rest) = condition t) (hyes : StopsOrPasses yes t rest)
    (hno : StopsOrPasses no t rest) :
    StopsOrPasses (fun u => if condition u then yes u else no u) t rest := by
  simp only [StopsOrPasses, hcondition]
  split_ifs
  · exact hyes
  · exact hno

theorem StopsOrPasses.map {read : Text → α × Text} (h : StopsOrPasses read t rest) (f : α → β) :
    StopsOrPasses (fun u => (f (read u).1, (read u).2)) t rest :=
  h.of_eq f rfl rfl

/-- A mark that starts a text with a comma behind it starts the text. -/
theorem starts_of_append {start u : Text} (hstart : ',' ∉ start)
    (h : t ++ ',' :: rest = start ++ u) : ∃ v, t = start ++ v := by
  rcases List.append_eq_append_iff.1 h with ⟨v, hv, htail⟩ | ⟨v, hv, -⟩
  · cases v with
    | nil => exact ⟨[], by simpa using hv.symm⟩
    | cons d v =>
      obtain ⟨rfl, -⟩ := List.cons.inj htail
      exact absurd (hv ▸ by simp) hstart
  · exact ⟨v, hv⟩

theorem cons_of_append {d : Char} {u : Text} (hd : d ≠ ',') (h : t ++ ',' :: rest = d :: u) :
    ∃ v, t = d :: v :=
  @starts_of_append _ _ [d] _ (by simpa using hd.symm) h

theorem head?_any_append {p : Char → Bool} (h : p ',' = false) (t rest : Text) :
    (t ++ ',' :: rest).head?.any p = t.head?.any p := by
  cases t with
  | nil => simpa using h
  | cons c t => rfl

theorem skipOneSpace_cons {c : Char} {t : Text} (h : ∀ u, c = '\r' → t ≠ '\n' :: u) :
    skipOneSpace (c :: t) = if isSpaceChar c then t else c :: t := by
  rw [skipOneSpace]
  exact h

theorem skipOneSpace_append (t rest : Text) :
    skipOneSpace (t ++ ',' :: rest) = skipOneSpace t ++ ',' :: rest := by
  cases t with
  | nil => rfl
  | cons c t =>
    by_cases hbreak : c = '\r' ∧ ∃ u, t = '\n' :: u
    · obtain ⟨rfl, u, rfl⟩ := hbreak
      rfl
    · have hself : ∀ u, c = '\r' → t ≠ '\n' :: u := fun u hc ht => hbreak ⟨hc, u, ht⟩
      have happend : ∀ u, c = '\r' → t ++ ',' :: rest ≠ '\n' :: u := by
        intro u hc heq
        obtain ⟨v, hv⟩ := cons_of_append (by decide) heq
        exact hself v hc hv
      rw [List.cons_append, skipOneSpace_cons happend, skipOneSpace_cons hself]
      split_ifs <;> rfl

/-- An escape takes a comma only where it has nothing else. -/
theorem escape_append (ht : t ≠ []) (rest : Text) :
    escape (t ++ ',' :: rest) = ((escape t).1, (escape t).2 ++ ',' :: rest) := by
  obtain ⟨c, t, rfl⟩ := List.exists_cons_of_ne_nil ht
  have htake : ((c :: t ++ ',' :: rest).take 6).takeWhile isHexDigit =
      ((c :: t).take 6).takeWhile isHexDigit :=
    Text.takeWhile_take_append_stop rfl 6 (c :: t) rest
  have hlength : (((c :: t).take 6).takeWhile isHexDigit).length ≤ (c :: t).length :=
    (List.takeWhile_prefix _).length_le.trans (List.take_prefix ..).length_le
  rw [List.cons_append] at htake ⊢
  unfold escape
  dsimp only
  split
  · rw [htake, ← List.cons_append, List.drop_append_of_le_length hlength, skipOneSpace_append]
  · rfl

theorem startsName_cons (c : Char) (t : Text) :
    startsName (c :: t) =
      if c = '-' then t.head?.any fun d => isNameStart d || d == '-' || d == '\\'
      else if c = '\\' then !(t.head?.any isNewline)
      else isNameStart c := by
  unfold startsName
  split
  · rename_i d u heq
    obtain ⟨rfl, rfl⟩ := List.cons.inj heq
    rfl
  · rename_i heq
    obtain ⟨rfl, rfl⟩ := List.cons.inj heq
    rfl
  · rename_i d u hminus hescape heq
    obtain ⟨rfl, rfl⟩ := List.cons.inj heq
    split_ifs with hc
    · subst hc
      cases t with
      | nil => rfl
      | cons d u => exact absurd rfl (hminus d u rfl)
    · rfl
  · rename_i heq
    cases heq

theorem startsName_append (t rest : Text) : startsName (t ++ ',' :: rest) = startsName t := by
  cases t with
  | nil => rfl
  | cons c t =>
    rw [List.cons_append, startsName_cons, startsName_cons, head?_any_append rfl,
      head?_any_append rfl]

theorem startsDigits_cons (c : Char) (t : Text) :
    startsDigits (c :: t) = if c = '.' then t.head?.any isAsciiDigit else isAsciiDigit c := by
  unfold startsDigits
  split
  · rename_i d u heq
    obtain ⟨rfl, rfl⟩ := List.cons.inj heq
    rfl
  · rename_i d u hpoint heq
    obtain ⟨rfl, rfl⟩ := List.cons.inj heq
    split_ifs with hc
    · subst hc
      cases t with
      | nil => rfl
      | cons d u => exact absurd rfl (hpoint d u rfl)
    · rfl
  · rename_i heq
    cases heq

theorem startsDigits_append (t rest : Text) : startsDigits (t ++ ',' :: rest) = startsDigits t := by
  cases t with
  | nil => rfl
  | cons c t => rw [List.cons_append, startsDigits_cons, startsDigits_cons, head?_any_append rfl]

theorem name_stopsOrPasses (t rest : Text) : StopsOrPasses name t rest := by
  fun_induction name t with
  | case1 =>
    refine .inl ?_
    rw [List.nil_append, name, name]
    rfl
  | case2 c t hchar _ _ _ ih =>
    refine ih.of_eq (noNull c :: ·) ?_ ?_
    · rw [name, if_pos hchar]
    · rw [List.cons_append, name, if_pos hchar]
  | case3 c t hchar hescape _ _ _ ih =>
    have hcomma : c == '\\' && !((t ++ ',' :: rest).head?.any isNewline) := by
      rwa [head?_any_append rfl]
    by_cases ht : t = []
    · subst ht
      refine .inr ?_
      rw [List.cons_append, name, if_neg hchar, if_pos hcomma]
      exact name_suffix rest
    · refine ih.of_eq ((escape t).1 :: ·) ?_ ?_
      · rw [name, if_neg hchar, if_pos hescape]
      · rw [List.cons_append, name, if_neg hchar, if_pos hcomma, escape_append ht]
  | case4 c t hchar hescape =>
    refine .inl ?_
    rw [List.cons_append, name, name, if_neg hchar, if_neg hescape, if_neg hchar,
      head?_any_append rfl, if_neg hescape]
    rfl

theorem stringBody_cons (quote c : Char) (t : Text) :
    stringBody quote (c :: t) =
      if c == quote then (some [], t)
      else if isNewline c then (none, c :: t)
      else if c == '\\' then
        if t.isEmpty then (some [], [])
        else if t.head?.any isNewline then stringBody quote (skipOneSpace t)
        else ((stringBody quote (escape t).2).1.map ((escape t).1 :: ·),
          (stringBody quote (escape t).2).2)
      else ((stringBody quote t).1.map (noNull c :: ·), (stringBody quote t).2) := by
  rw [stringBody]

theorem stringBody_stopsOrPasses {quote : Char} (hquote : quote ≠ ',') (t rest : Text) :
    StopsOrPasses (stringBody quote) t rest := by
  have hempty (u : Text) : (u ++ ',' :: rest).isEmpty = false := by cases u <;> rfl
  have hcomma : (',' == quote) = false := beq_eq_false_iff_ne.2 hquote.symm
  fun_induction stringBody quote t with
  | case1 =>
    refine .inr ?_
    rw [List.nil_append, stringBody_cons, hcomma]
    exact stringBody_suffix quote rest
  | case2 c t hc =>
    refine .inl ?_
    rw [List.cons_append, stringBody_cons, if_pos hc, stringBody_cons, if_pos hc]
  | case3 c t hc hline =>
    refine .inl ?_
    rw [List.cons_append, stringBody_cons, if_neg hc, if_pos hline, stringBody_cons, if_neg hc,
      if_pos hline]
    rfl
  | case4 c t hc hline hescape hnil =>
    obtain rfl := List.isEmpty_iff.1 hnil
    refine .inr ?_
    rw [List.cons_append, stringBody_cons, if_neg hc, if_neg hline, if_pos hescape]
    exact stringBody_suffix quote rest
  | case5 c t hc hline hescape hnil hbreak ih =>
    refine ih.of_eq id ?_ ?_
    · rw [stringBody_cons, if_neg hc, if_neg hline, if_pos hescape, if_neg hnil, if_pos hbreak]
      rfl
    · rw [List.cons_append, stringBody_cons, if_neg hc, if_neg hline, if_pos hescape, hempty,
        head?_any_append rfl, if_pos hbreak, skipOneSpace_append]
      rfl
  | case6 c t hc hline hescape hnil hbreak _ _ _ ih =>
    refine ih.of_eq (Option.map ((escape t).1 :: ·)) ?_ ?_
    · rw [stringBody_cons, if_neg hc, if_neg hline, if_pos hescape, if_neg hnil, if_neg hbreak]
    · rw [List.cons_append, stringBody_cons, if_neg hc, if_neg hline, if_pos hescape, hempty,
        head?_any_append rfl, if_neg hbreak, escape_append (by simpa using hnil)]
      rfl
  | case7 c t hc hline hescape _ _ _ ih =>
    refine ih.of_eq (Option.map (noNull c :: ·)) ?_ ?_
    · rw [stringBody_cons, if_neg hc, if_neg hline, if_neg hescape]
    · rw [List.cons_append, stringBody_cons, if_neg hc, if_neg hline, if_neg hescape]

theorem fraction_cons (c : Char) (t : Text) :
    fraction (c :: t) =
      if c = '.' ∧ t.head?.any isAsciiDigit then (true, t.dropWhile isAsciiDigit)
      else (false, c :: t) := by
  unfold fraction
  split
  · rename_i d u heq
    obtain ⟨rfl, rfl⟩ := List.cons.inj heq
    by_cases hd : isAsciiDigit d
    · simp [hd]
    · simp [hd]
  · rename_i hpoint
    rw [if_neg]
    rintro ⟨rfl, hdigit⟩
    cases t with
    | nil => cases hdigit
    | cons d u => exact hpoint d u rfl

theorem fraction_append (t rest : Text) :
    fraction (t ++ ',' :: rest) = ((fraction t).1, (fraction t).2 ++ ',' :: rest) := by
  cases t with
  | nil => rfl
  | cons c t =>
    rw [List.cons_append, fraction_cons, fraction_cons, head?_any_append rfl,
      Text.dropWhile_append_stop rfl]
    split_ifs <;> rfl

theorem exponentDigits_append (t rest : Text) :
    exponentDigits (t ++ ',' :: rest) = exponentDigits t ++ ',' :: rest := by
  cases t with
  | nil => rfl
  | cons c t =>
    rw [List.cons_append, exponentDigits, exponentDigits]
    split_ifs <;> rfl

theorem exponent_append (t rest : Text) :
    exponent (t ++ ',' :: rest) = ((exponent t).1, (exponent t).2 ++ ',' :: rest) := by
  cases t with
  | nil => rfl
  | cons e t =>
    rw [List.cons_append, exponent_cons, exponent_cons, exponentDigits_append,
      head?_any_append rfl, Text.dropWhile_append_stop rfl]
    split_ifs <;> rfl

theorem magnitude_append (negative : Bool) (t rest : Text) :
    magnitude negative (t ++ ',' :: rest) =
      ((magnitude negative t).1, (magnitude negative t).2 ++ ',' :: rest) := by
  simp only [magnitude, Text.takeWhile_append_stop (show isAsciiDigit ',' = false from rfl),
    Text.dropWhile_append_stop (show isAsciiDigit ',' = false from rfl), fraction_append,
    exponent_append]

theorem sign_append (t rest : Text) :
    sign (t ++ ',' :: rest) = ((sign t).1, (sign t).2.1, (sign t).2.2 ++ ',' :: rest) := by
  cases t with
  | nil => rfl
  | cons c t =>
    by_cases hplus : c = '+'
    · subst hplus
      rfl
    by_cases hminus : c = '-'
    · subst hminus
      rfl
    rw [List.cons_append, sign_of_ne hplus hminus, sign_of_ne hplus hminus]
    rfl

theorem numberEnd_of_ne {signed : Bool} {whole : Option Int} {t : Text} (h : ∀ u, t ≠ '%' :: u) :
    numberEnd signed whole t =
      if startsName t then (.dimension signed whole (name t).1, (name t).2)
      else (.number signed whole, t) := by
  rw [numberEnd]
  exact h

theorem numberEnd_stopsOrPasses (signed : Bool) (whole : Option Int) (t rest : Text) :
    StopsOrPasses (numberEnd signed whole) t rest := by
  by_cases hpercent : ∃ u, t = '%' :: u
  · obtain ⟨u, rfl⟩ := hpercent
    exact .inl rfl
  have hself : ∀ u, t ≠ '%' :: u := fun u heq => hpercent ⟨u, heq⟩
  have happend : ∀ u, t ++ ',' :: rest ≠ '%' :: u := by
    intro u heq
    obtain ⟨v, hv⟩ := cons_of_append (by decide) heq
    exact hself v hv
  by_cases hname : startsName t
  · refine (name_stopsOrPasses t rest).of_eq (.dimension signed whole) ?_ ?_
    · rw [numberEnd_of_ne hself, if_pos hname]
    · rw [numberEnd_of_ne happend, startsName_append, if_pos hname]
  · refine .inl ?_
    rw [numberEnd_of_ne happend, startsName_append, if_neg hname, numberEnd_of_ne hself,
      if_neg hname]

theorem numeric_stopsOrPasses (t rest : Text) : StopsOrPasses numeric t rest := by
  have h := numberEnd_stopsOrPasses (sign t).1 (magnitude (sign t).2.1 (sign t).2.2).1
    (magnitude (sign t).2.1 (sign t).2.2).2 rest
  refine h.of_eq id (numeric_eq t) ?_
  rw [numeric_eq, sign_append, magnitude_append]
  rfl

theorem badUrlBody_cons {c : Char} {t : Text} (hend : c ≠ ')') (hescape : ∀ u, c = '\\' →
    t ≠ ')' :: u ∧ t ≠ '\\' :: u) : badUrlBody (c :: t) = badUrlBody t := by
  rw [badUrlBody]
  · exact hend
  · exact fun u hc ht => (hescape u hc).1 ht
  · exact fun u hc ht => (hescape u hc).2 ht

theorem badUrlBody_stopsOrPasses (t rest : Text) :
    badUrlBody (t ++ ',' :: rest) = badUrlBody t ++ ',' :: rest ∨
      badUrlBody (t ++ ',' :: rest) <:+ rest := by
  fun_induction badUrlBody t with
  | case1 =>
    refine .inr ?_
    rw [List.nil_append, badUrlBody_cons (by decide) (by simp)]
    exact badUrlBody_suffix rest
  | case2 u => exact .inl rfl
  | case3 u ih => exact ih
  | case4 u ih => exact ih
  | case5 c u hend hround hback ih =>
    have happend : badUrlBody (c :: (u ++ ',' :: rest)) = badUrlBody (u ++ ',' :: rest) := by
      refine badUrlBody_cons hend fun v hc => ⟨fun heq => ?_, fun heq => ?_⟩
      · obtain ⟨w, hw⟩ := cons_of_append (by decide) heq
        exact hround w hc hw
      · obtain ⟨w, hw⟩ := cons_of_append (by decide) heq
        exact hback w hc hw
    rwa [List.cons_append, happend]

theorem badUrl_stopsOrPasses (t rest : Text) :
    StopsOrPasses (fun u => (Lexeme.badUrl, badUrlBody u)) t rest :=
  (badUrlBody_stopsOrPasses t rest).imp (congrArg (Lexeme.badUrl, ·)) id

theorem commentBody_cons {c : Char} {t : Text} (h : ∀ u, c = '*' → t ≠ '/' :: u) :
    commentBody (c :: t) = commentBody t := by
  rw [commentBody]
  exact h

theorem commentBody_stopsOrPasses (t rest : Text) :
    commentBody (t ++ ',' :: rest) = commentBody t ++ ',' :: rest ∨
      commentBody (t ++ ',' :: rest) <:+ rest := by
  fun_induction commentBody t with
  | case1 =>
    refine .inr ?_
    rw [List.nil_append, commentBody_cons (by simp)]
    exact commentBody_suffix rest
  | case2 u => exact .inl rfl
  | case3 c u h ih =>
    have happend : commentBody (c :: (u ++ ',' :: rest)) = commentBody (u ++ ',' :: rest) := by
      refine commentBody_cons fun v hc heq => ?_
      obtain ⟨w, hw⟩ := cons_of_append (by decide) heq
      exact h w hc hw
    rwa [List.cons_append, happend]

/-- What may come after the blanks at the end of an address. -/
def urlEnd : Text → Lexeme × Text
  | [] => (.url, [])
  | d :: after => if d == ')' then (.url, after) else (.badUrl, badUrlBody after)

theorem urlBody_cons (c : Char) (t : Text) :
    urlBody (c :: t) =
      if c == ')' then (.url, t)
      else if isSpaceChar c then urlEnd (t.dropWhile isSpaceChar)
      else if isBadInUrl c then (.badUrl, badUrlBody t)
      else if c == '\\' then
        if t.head?.any isNewline then (.badUrl, badUrlBody t) else urlBody (escape t).2
      else urlBody t := by
  rw [urlBody]
  rfl

theorem urlEnd_stopsOrPasses (t rest : Text) : StopsOrPasses urlEnd t rest := by
  cases t with
  | nil => exact .inr (badUrlBody_suffix rest)
  | cons d after =>
    by_cases hd : d == ')'
    · refine .inl ?_
      rw [List.cons_append, urlEnd, urlEnd, if_pos hd, if_pos hd]
    · refine (badUrl_stopsOrPasses after rest).of_eq id ?_ ?_
      · rw [urlEnd, if_neg hd]
        rfl
      · rw [List.cons_append, urlEnd, if_neg hd]
        rfl

theorem urlBody_stopsOrPasses (t rest : Text) : StopsOrPasses urlBody t rest := by
  have hspaces {c : Char} {t : Text} (hc : ¬c == ')') (hspace : isSpaceChar c) :
      StopsOrPasses urlBody (c :: t) rest := by
    refine (urlEnd_stopsOrPasses (t.dropWhile isSpaceChar) rest).of_eq id ?_ ?_
    · rw [urlBody_cons, if_neg hc, if_pos hspace]
      rfl
    · rw [List.cons_append, urlBody_cons, if_neg hc, if_pos hspace, Text.dropWhile_append_stop rfl]
      rfl
  fun_induction urlBody t with
  | case1 =>
    refine .inr ?_
    rw [List.nil_append, urlBody_cons]
    exact urlBody_suffix rest
  | case2 c t hc =>
    refine .inl ?_
    rw [List.cons_append, urlBody_cons, if_pos hc, urlBody_cons, if_pos hc]
  | case3 c t hc hspace => exact hspaces hc hspace
  | case4 c t hc hspace => exact hspaces hc hspace
  | case5 c t hc hspace => exact hspaces hc hspace
  | case6 c t hc hspace hbadChar =>
    refine (badUrl_stopsOrPasses t rest).of_eq id ?_ ?_
    · rw [urlBody_cons, if_neg hc, if_neg hspace, if_pos hbadChar]
      rfl
    · rw [List.cons_append, urlBody_cons, if_neg hc, if_neg hspace, if_pos hbadChar]
      rfl
  | case7 c t hc hspace hbadChar hescape hline =>
    refine (badUrl_stopsOrPasses t rest).of_eq id ?_ ?_
    · rw [urlBody_cons, if_neg hc, if_neg hspace, if_neg hbadChar, if_pos hescape, if_pos hline]
      rfl
    · rw [List.cons_append, urlBody_cons, if_neg hc, if_neg hspace, if_neg hbadChar,
        if_pos hescape, head?_any_append rfl, if_pos hline]
      rfl
  | case8 c t hc hspace hbadChar hescape hline ih =>
    have happend : urlBody (c :: t ++ ',' :: rest) = urlBody (escape (t ++ ',' :: rest)).2 := by
      rw [List.cons_append, urlBody_cons, if_neg hc, if_neg hspace, if_neg hbadChar,
        if_pos hescape, head?_any_append rfl, if_neg hline]
    by_cases ht : t = []
    · subst ht
      exact .inr (happend ▸ urlBody_suffix rest)
    · refine ih.of_eq id ?_ ?_
      · rw [urlBody_cons, if_neg hc, if_neg hspace, if_neg hbadChar, if_pos hescape, if_neg hline]
        rfl
      · rw [happend, escape_append ht]
        rfl
  | case9 c t hc hspace hbadChar hescape ih =>
    refine ih.of_eq id ?_ ?_
    · rw [urlBody_cons, if_neg hc, if_neg hspace, if_neg hbadChar, if_neg hescape]
      rfl
    · rw [List.cons_append, urlBody_cons, if_neg hc, if_neg hspace, if_neg hbadChar,
        if_neg hescape]
      rfl

theorem wordEnd_of_ne {value t : Text} (h : ∀ u, t ≠ '(' :: u) :
    wordEnd value t = (.ident value, t) := by
  rw [wordEnd]
  exact h

theorem wordEnd_stopsOrPasses (value t rest : Text) : StopsOrPasses (wordEnd value) t rest := by
  by_cases hround : ∃ u, t = '(' :: u
  · obtain ⟨u, rfl⟩ := hround
    by_cases hurl : Text.asciiLower value == ("url" : Text)
    · by_cases hquote : (u.dropWhile isSpaceChar).head?.any fun c => c == '"' || c == '\''
      · refine .inl ?_
        simp only [List.cons_append, wordEnd, if_pos hurl]
        rw [Text.dropWhile_append_stop rfl, head?_any_append rfl, if_pos hquote, if_pos hquote]
      · refine (urlBody_stopsOrPasses (u.dropWhile isSpaceChar) rest).of_eq id ?_ ?_
        · simp only [wordEnd, if_pos hurl, if_neg hquote]
          rfl
        · simp only [List.cons_append, wordEnd, if_pos hurl]
          rw [Text.dropWhile_append_stop rfl, head?_any_append rfl, if_neg hquote]
          rfl
    · refine .inl ?_
      simp only [List.cons_append, wordEnd, if_neg hurl]
  · have hself : ∀ u, t ≠ '(' :: u := fun u heq => hround ⟨u, heq⟩
    have happend : ∀ u, t ++ ',' :: rest ≠ '(' :: u := by
      intro u heq
      obtain ⟨v, hv⟩ := cons_of_append (by decide) heq
      exact hself v hv
    refine .inl ?_
    rw [wordEnd_of_ne hself, wordEnd_of_ne happend]

theorem identLike_stopsOrPasses (t rest : Text) : StopsOrPasses identLike t rest :=
  (name_stopsOrPasses t rest).andThen (wordEnd_stopsOrPasses ..) wordEnd_suffix

theorem plainLexeme_stopsOrPasses (c : Char) (t rest : Text) :
    StopsOrPasses (plainLexeme c) t rest := by
  have hname := name_stopsOrPasses t rest
  have hstarts := startsName_append t rest
  have hdigits := startsDigits_append t rest
  unfold plainLexeme
  split
  case h_1 =>
    exact .ite hstarts (hname.map _) (.ite (head?_any_append rfl ..) (hname.map _) (.stop _))
  case h_2 => exact .ite hstarts (hname.map _) (.stop _)
  case h_3 => exact .ite hdigits (numeric_stopsOrPasses ('+' :: t) rest) (.stop _)
  case h_4 =>
    exact .ite hdigits (numeric_stopsOrPasses ('-' :: t) rest)
      (.ite (startsName_append ('-' :: t) rest) (identLike_stopsOrPasses ('-' :: t) rest) (.stop _))
  case h_12 _ _ _ _ _ _ _ _ _ hcomma _ _ =>
    refine .ite rfl (.inl ?_) (.ite rfl ?_ (.ite (startsDigits_append (c :: t) rest)
      (numeric_stopsOrPasses (c :: t) rest) (.ite (startsName_append (c :: t) rest)
      (identLike_stopsOrPasses (c :: t) rest) (.ite rfl (.stop _) (.ite rfl (.stop _) (.stop _))))))
    · simp only [Text.dropWhile_append_stop (show isSpaceChar ',' = false from rfl)]
    · exact (stringBody_stopsOrPasses hcomma t rest).map fun value =>
        (value.map Lexeme.string).getD .badString
  all_goals exact .stop _

/-- The first token of a text does not change when a comma is put behind it, or it takes the comma.
-/
theorem lexeme?_stopsOrPasses (c : Char) (t rest : Text) :
    StopsOrPasses lexeme? (c :: t) rest := by
  rcases starts_cases (c :: t) with ⟨after, heq⟩ | ⟨mark, hmem, after, heq⟩ | ⟨hcomment, hmark⟩
  · rw [heq]
    exact (commentBody_stopsOrPasses after rest).imp (congrArg (none, ·)) id
  · refine .inl ?_
    rw [heq, List.append_assoc, lexeme?_mark hmem, lexeme?_mark hmem]
  · refine (plainLexeme_stopsOrPasses c t rest).of_eq some (lexeme?_plain hcomment hmark)
      (lexeme?_plain (fun after happend => ?_) fun mark hmem after happend => ?_)
    · have hstart : ',' ∉ ['/', '*'] := by decide
      obtain ⟨v, hv⟩ := starts_of_append (t := c :: t) (u := after) hstart happend
      exact hcomment v hv
    · obtain ⟨v, hv⟩ := starts_of_append (t := c :: t) (mark_plain hmem).2 happend
      exact hmark mark hmem v hv

/-! ### All tokens -/

theorem lexemes_comma (rest : Text) : lexemes (',' :: rest) = .comma :: lexemes rest :=
  lexemes_cons ',' rest

/-- A comma behind a text without commas is a token, and the text before and the text after it are
read apart; or a token that starts before it takes it. -/
theorem lexemes_append_comma {t : Text} (ht : ',' ∉ t) (rest : Text) :
    lexemes (t ++ ',' :: rest) = lexemes t ++ .comma :: lexemes rest ∨
      (lexemes (t ++ ',' :: rest)).count .comma ≤ rest.count ',' := by
  induction hn : t.length using Nat.strongRecOn generalizing t with
  | _ n ih =>
  cases t with
  | nil => exact .inl (lexemes_comma rest)
  | cons c t =>
    have hsuffix := lexeme?_suffix c t
    have hfirst : (lexeme? (c :: (t ++ ',' :: rest))).1.toList.count .comma = 0 := by
      refine List.count_eq_zero.2 fun hmem => ht ?_
      rw [← lexeme?_eq_comma (Option.mem_toList.1 hmem)]
      exact List.mem_cons_self
    rw [List.cons_append, lexemes_cons]
    rcases lexeme?_stopsOrPasses c t rest with hstops | hpasses
    · have hcomma : ',' ∉ (lexeme? (c :: t)).2 :=
        fun hmem => ht (List.mem_cons_of_mem c (hsuffix.subset hmem))
      have hlt : (lexeme? (c :: t)).2.length < n := by
        rw [← hn]
        exact Nat.lt_succ_of_le hsuffix.length_le
      rw [List.cons_append] at hstops
      refine (ih _ hlt hcomma rfl).imp (fun hlexemes => ?_) fun hcount => ?_
      · rw [hstops, hlexemes, lexemes_cons, List.append_assoc]
      · rw [List.count_append, hfirst, hstops, Nat.zero_add]
        exact hcount
    · refine .inr ?_
      rw [List.count_append, hfirst, Nat.zero_add]
      exact (count_comma_lexemes_le _).trans (hpasses.sublist.count_le ',')

end Playbill.Css
