import Playbill.Proofs.Text.Basic
import Playbill.Selector.Token

/-!
# First tokens

A token is read from the start of a text, and what it leaves over is an end of that text.

* `numeric_eq`, `identLike_eq`, `lexeme?_mark`, `lexeme?_plain`: how a token is read, step by step.
* `name_suffix`, `stringBody_suffix`, `urlBody_suffix`, ...: what each reader leaves over.
* `lexeme?_suffix`, `lexemes_cons`: so tokens are read one after another, however many are allowed
  for; `length_lexemes_le`: there are no more of them than characters.
* `count_comma_lexemes_le`: every comma among the tokens is a comma of the text.
-/

namespace Playbill.Css

/-! ### Parts of numbers -/

/-- The digits of an exponent, after its sign. -/
def exponentDigits : Text → Text
  | s :: after => if s == '+' || s == '-' then after else s :: after
  | [] => []

theorem exponent_cons (e : Char) (rest : Text) :
    exponent (e :: rest) =
      if (e == 'e' || e == 'E') && (exponentDigits rest).head?.any isAsciiDigit then
        (true, (exponentDigits rest).dropWhile isAsciiDigit)
      else (false, e :: rest) := by
  cases rest <;> simp only [exponent, exponentDigits, Bool.and_eq_true] <;> split_ifs <;> simp_all

/-- The sign of a number: whether there is one, whether it is a minus, and the text after it. -/
def sign (t : Text) : Bool × Bool × Text :=
  match t with
  | '-' :: rest => (true, true, rest)
  | '+' :: rest => (true, false, rest)
  | _ => (false, false, t)

/-- What comes after the digits of a number: a percent sign, a unit or nothing. -/
def numberEnd (signed : Bool) (whole : Option Int) (t : Text) : Lexeme × Text :=
  match t with
  | '%' :: rest => (.percentage, rest)
  | _ =>
    if startsName t then (.dimension signed whole (name t).1, (name t).2)
    else (.number signed whole, t)

/-- The digits of a number, its fraction and its exponent: the number if it is whole, and the text
after it. -/
def magnitude (negative : Bool) (t : Text) : Option Int × Text :=
  let scaled := fraction (t.dropWhile isAsciiDigit)
  let size : Int := Text.natOfDigits (t.takeWhile isAsciiDigit)
  (if scaled.1 || (exponent scaled.2).1 then none
    else some (clamp32 (if negative then -size else size)), (exponent scaled.2).2)

theorem numeric_eq (t : Text) : numeric t =
    numberEnd (sign t).1 (magnitude (sign t).2.1 (sign t).2.2).1
      (magnitude (sign t).2.1 (sign t).2.2).2 := by
  unfold numeric
  split
  rename_i signed negative u heq
  have hsign : sign t = (signed, negative, u) := heq
  rw [hsign]
  rfl

/-! ### First tokens -/

/-- A name that has been read, with what may come after it: the bracket of a function or an address.
-/
def wordEnd (value rest : Text) : Lexeme × Text :=
  match rest with
  | '(' :: inner =>
    if Text.asciiLower value == ("url" : Text) then
      let body := inner.dropWhile isSpaceChar
      if body.head?.any fun c => c == '"' || c == '\'' then (.function value, inner)
      else urlBody body
    else (.function value, inner)
  | _ => (.ident value, rest)

theorem identLike_eq (t : Text) : identLike t = wordEnd (name t).1 (name t).2 :=
  rfl

/-- The tokens of several fixed characters. -/
def marks : List (Text × Lexeme) :=
  [("$=", .endMatch), ("*=", .substringMatch), ("^=", .beginMatch), ("|=", .dashMatch),
    ("~=", .includeMatch), ("<!--", .commentOpen), ("-->", .commentClose)]

/-- The first token of a text where neither a comment nor a mark starts. -/
def plainLexeme (c : Char) (rest : Text) : Lexeme × Text :=
  match c with
  | '#' =>
    if startsName rest then (.idHash (name rest).1, (name rest).2)
    else if rest.head?.any fun c => isAsciiDigit c || c == '-' then
      (.hash (name rest).1, (name rest).2)
    else (.delim '#', rest)
  | '@' =>
    if startsName rest then (.atKeyword (name rest).1, (name rest).2) else (.delim '@', rest)
  | '+' => if startsDigits rest then numeric ('+' :: rest) else (.delim '+', rest)
  | '-' =>
    if startsDigits rest then numeric ('-' :: rest)
    else if startsName ('-' :: rest) then identLike ('-' :: rest)
    else (.delim '-', rest)
  | '(' => (.opening .round, rest)
  | ')' => (.closing .round, rest)
  | '[' => (.opening .square, rest)
  | ']' => (.closing .square, rest)
  | ',' => (.comma, rest)
  | ':' => (.colon, rest)
  | ';' => (.semicolon, rest)
  | c =>
    if isSpaceChar c then (.space, rest.dropWhile isSpaceChar)
    else if c == '"' || c == '\'' then
      (((stringBody c rest).1.map .string).getD .badString, (stringBody c rest).2)
    else if startsDigits (c :: rest) then numeric (c :: rest)
    else if startsName (c :: rest) then identLike (c :: rest)
    else if c.toNat == 0x7B then (.opening .curly, rest)
    else if c.toNat == 0x7D then (.closing .curly, rest)
    else (.delim c, rest)

theorem mark_plain {mark : Text × Lexeme} (h : mark ∈ marks) : mark.1 ≠ [] ∧ ',' ∉ mark.1 := by
  have hall : marks.all (fun mark => !mark.1.isEmpty && !mark.1.contains ',') = true := rfl
  simpa using List.all_eq_true.1 hall mark h

theorem lexeme?_mark {mark : Text × Lexeme} (h : mark ∈ marks) (rest : Text) :
    lexeme? (mark.1 ++ rest) = (some mark.2, rest) := by
  simp only [marks, List.mem_cons, List.not_mem_nil, or_false] at h
  rcases h with rfl | rfl | rfl | rfl | rfl | rfl | rfl <;> rfl

theorem lexeme?_plain {c : Char} {rest : Text} (hcomment : ∀ after, c :: rest ≠ '/' :: '*' :: after)
    (hnot : ∀ mark ∈ marks, ∀ after, c :: rest ≠ mark.1 ++ after) :
    lexeme? (c :: rest) = (some (plainLexeme c rest).1, (plainLexeme c rest).2) := by
  simp only [marks, List.forall_mem_cons] at hnot
  unfold lexeme?
  split
  case h_1 heq => cases heq
  case h_2 heq => exact absurd heq (hcomment _)
  case h_3 heq => exact absurd heq (hnot.1 _)
  case h_4 heq => exact absurd heq (hnot.2.1 _)
  case h_5 heq => exact absurd heq (hnot.2.2.1 _)
  case h_6 heq => exact absurd heq (hnot.2.2.2.1 _)
  case h_7 heq => exact absurd heq (hnot.2.2.2.2.1 _)
  case h_8 heq => exact absurd heq (hnot.2.2.2.2.2.1 _)
  case h_9 heq => exact absurd heq (hnot.2.2.2.2.2.2.1 _)
  case h_21 heq =>
    obtain ⟨rfl, rfl⟩ := List.cons.inj heq
    rw [plainLexeme]
    · split_ifs <;> first | rfl | (rcases stringBody c rest with ⟨_ | value, after⟩ <;> rfl)
    all_goals assumption
  all_goals
    rename_i heq
    obtain ⟨rfl, rfl⟩ := List.cons.inj heq
    simp only [plainLexeme]
    try split_ifs <;> rfl

/-! ### What is left over -/

theorem skipOneSpace_suffix (t : Text) : skipOneSpace t <:+ t := by
  unfold skipOneSpace
  split
  · exact ⟨['\r', '\n'], rfl⟩
  · split
    · exact List.suffix_cons ..
    · exact List.suffix_rfl
  · exact List.suffix_rfl

theorem escape_suffix (t : Text) : (escape t).2 <:+ t := by
  unfold escape
  split
  · exact List.suffix_rfl
  · split
    · exact (skipOneSpace_suffix _).trans (List.drop_suffix ..)
    · exact List.suffix_cons ..

theorem name_suffix (t : Text) : (name t).2 <:+ t := by
  fun_induction name t with
  | case1 => exact List.suffix_rfl
  | case2 c rest _ tail after heq ih =>
    rw [heq] at ih
    exact ih.trans (List.suffix_cons ..)
  | case3 c rest _ _ tail after heq ih =>
    rw [heq] at ih
    exact (ih.trans (escape_suffix rest)).trans (List.suffix_cons ..)
  | case4 c rest => exact List.suffix_rfl

theorem stringBody_suffix (quote : Char) (t : Text) : (stringBody quote t).2 <:+ t := by
  fun_induction stringBody quote t with
  | case1 => exact List.suffix_rfl
  | case2 => exact List.suffix_cons ..
  | case3 => exact List.suffix_rfl
  | case4 => exact List.nil_suffix
  | case5 c rest _ _ _ _ _ ih =>
    exact (ih.trans (skipOneSpace_suffix rest)).trans (List.suffix_cons ..)
  | case6 c rest _ _ _ _ _ tail after heq ih =>
    rw [heq] at ih
    exact (ih.trans (escape_suffix rest)).trans (List.suffix_cons ..)
  | case7 c rest _ _ _ tail after heq ih =>
    rw [heq] at ih
    exact ih.trans (List.suffix_cons ..)

theorem fraction_suffix (t : Text) : (fraction t).2 <:+ t := by
  unfold fraction
  split
  · split
    · exact (List.dropWhile_suffix _).trans ((List.suffix_cons ..).trans (List.suffix_cons ..))
    · exact List.suffix_rfl
  · exact List.suffix_rfl

theorem exponentDigits_suffix (t : Text) : exponentDigits t <:+ t := by
  unfold exponentDigits
  split
  · split
    · exact List.suffix_cons ..
    · exact List.suffix_rfl
  · exact List.suffix_rfl

theorem exponent_suffix (t : Text) : (exponent t).2 <:+ t := by
  cases t with
  | nil => exact List.suffix_rfl
  | cons e rest =>
    rw [exponent_cons]
    split
    · exact ((List.dropWhile_suffix _).trans (exponentDigits_suffix rest)).trans
        (List.suffix_cons ..)
    · exact List.suffix_rfl

theorem magnitude_suffix (negative : Bool) (t : Text) : (magnitude negative t).2 <:+ t :=
  ((exponent_suffix _).trans (fraction_suffix _)).trans (List.dropWhile_suffix _)

theorem numberEnd_suffix (signed : Bool) (whole : Option Int) (t : Text) :
    (numberEnd signed whole t).2 <:+ t := by
  unfold numberEnd
  split
  · exact List.suffix_cons ..
  · split
    · exact name_suffix t
    · exact List.suffix_rfl

theorem badUrlBody_suffix (t : Text) : badUrlBody t <:+ t := by
  fun_induction badUrlBody t with
  | case1 => exact List.suffix_rfl
  | case2 => exact List.suffix_cons ..
  | case3 rest ih => exact ih.trans ((List.suffix_cons ..).trans (List.suffix_cons ..))
  | case4 rest ih => exact ih.trans ((List.suffix_cons ..).trans (List.suffix_cons ..))
  | case5 c rest _ _ _ ih => exact ih.trans (List.suffix_cons ..)

theorem urlBody_suffix (t : Text) : (urlBody t).2 <:+ t := by
  fun_induction urlBody t with
  | case1 => exact List.suffix_rfl
  | case2 => exact List.suffix_cons ..
  | case3 => exact List.nil_suffix
  | case4 c rest _ _ d after heq =>
    have hafter : after <:+ rest := (List.suffix_cons d after).trans (heq ▸ List.dropWhile_suffix _)
    exact hafter.trans (List.suffix_cons ..)
  | case5 c rest _ _ d after heq =>
    have hafter : after <:+ rest := (List.suffix_cons d after).trans (heq ▸ List.dropWhile_suffix _)
    exact ((badUrlBody_suffix after).trans hafter).trans (List.suffix_cons ..)
  | case6 c rest => exact (badUrlBody_suffix rest).trans (List.suffix_cons ..)
  | case7 c rest => exact (badUrlBody_suffix rest).trans (List.suffix_cons ..)
  | case8 c rest _ _ _ _ _ ih =>
    exact (ih.trans (escape_suffix rest)).trans (List.suffix_cons ..)
  | case9 c rest _ _ _ _ ih => exact ih.trans (List.suffix_cons ..)

theorem wordEnd_suffix (value rest : Text) : (wordEnd value rest).2 <:+ rest := by
  unfold wordEnd
  split
  · split
    · dsimp only
      split
      · exact List.suffix_cons ..
      · exact ((urlBody_suffix _).trans (List.dropWhile_suffix _)).trans (List.suffix_cons ..)
    · exact List.suffix_cons ..
  · exact List.suffix_rfl

theorem commentBody_suffix (t : Text) : commentBody t <:+ t := by
  fun_induction commentBody t with
  | case1 => exact List.suffix_rfl
  | case2 rest => exact (List.suffix_cons ..).trans (List.suffix_cons ..)
  | case3 c rest _ ih => exact ih.trans (List.suffix_cons ..)

theorem magnitude_suffix_of_startsDigits {negative : Bool} {c : Char} {rest : Text}
    (h : startsDigits (c :: rest)) : (magnitude negative (c :: rest)).2 <:+ rest := by
  refine (exponent_suffix _).trans ?_
  by_cases hc : isAsciiDigit c
  · rw [List.dropWhile_cons_of_pos hc]
    exact (fraction_suffix _).trans (List.dropWhile_suffix _)
  · rw [List.dropWhile_cons_of_neg hc]
    unfold startsDigits at h
    split at h
    · rename_i d after heq
      obtain ⟨rfl, rfl⟩ := List.cons.inj heq
      rw [fraction, if_pos h]
      exact (List.dropWhile_suffix _).trans (List.suffix_cons ..)
    · rename_i heq
      obtain ⟨rfl, rfl⟩ := List.cons.inj heq
      exact absurd h hc
    · cases h

theorem sign_of_ne {c : Char} {t : Text} (hplus : c ≠ '+') (hminus : c ≠ '-') :
    sign (c :: t) = (false, false, c :: t) := by
  unfold sign
  split
  · rename_i heq
    exact absurd (List.cons.inj heq).1 hminus
  · rename_i heq
    exact absurd (List.cons.inj heq).1 hplus
  · rfl

/-- A number takes at least one character. -/
theorem numeric_suffix_of_startsDigits {c : Char} {rest : Text}
    (h : c = '+' ∨ c = '-' ∨ startsDigits (c :: rest)) : (numeric (c :: rest)).2 <:+ rest := by
  rw [numeric_eq]
  refine (numberEnd_suffix ..).trans ?_
  by_cases hplus : c = '+'
  · subst hplus
    exact magnitude_suffix ..
  by_cases hminus : c = '-'
  · subst hminus
    exact magnitude_suffix ..
  rw [sign_of_ne hplus hminus]
  exact magnitude_suffix_of_startsDigits ((h.resolve_left hplus).resolve_left hminus)

/-- A name takes at least one character. -/
theorem name_suffix_of_startsName {c : Char} {rest : Text} (h : startsName (c :: rest)) :
    (name (c :: rest)).2 <:+ rest := by
  rw [name]
  split_ifs with hchar hescape
  · exact name_suffix rest
  · exact (name_suffix _).trans (escape_suffix rest)
  · unfold startsName at h
    split at h
    · rename_i heq
      obtain ⟨rfl, rfl⟩ := List.cons.inj heq
      exact absurd (by decide) hchar
    · rename_i heq
      obtain ⟨rfl, rfl⟩ := List.cons.inj heq
      exact absurd h (by simpa using hescape)
    · rename_i heq
      obtain ⟨rfl, rfl⟩ := List.cons.inj heq
      exact absurd (by simp [isNameChar, h]) hchar
    · cases h

theorem plainLexeme_suffix (c : Char) (rest : Text) : (plainLexeme c rest).2 <:+ rest := by
  have hname := name_suffix rest
  have hrest : rest <:+ rest := List.suffix_rfl
  unfold plainLexeme
  split
  case h_1 => split_ifs <;> assumption
  case h_2 => split_ifs <;> assumption
  case h_3 =>
    split_ifs
    · exact numeric_suffix_of_startsDigits (.inl rfl)
    · assumption
  case h_4 =>
    split_ifs with _ hstarts
    · exact numeric_suffix_of_startsDigits (.inr (.inl rfl))
    · exact (wordEnd_suffix ..).trans (name_suffix_of_startsName hstarts)
    · assumption
  case h_12 c _ _ _ _ _ _ _ _ _ _ _ =>
    split_ifs with _ _ hdigits hstarts
    · exact List.dropWhile_suffix _
    · exact stringBody_suffix ..
    · exact numeric_suffix_of_startsDigits (.inr (.inr hdigits))
    · exact (wordEnd_suffix ..).trans (name_suffix_of_startsName hstarts)
    all_goals assumption
  all_goals assumption

/-- A text starts with a comment, with a mark, or with another token. -/
theorem starts_cases (t : Text) :
    (∃ after, t = '/' :: '*' :: after) ∨ (∃ mark ∈ marks, ∃ after, t = mark.1 ++ after) ∨
      (∀ after, t ≠ '/' :: '*' :: after) ∧ ∀ mark ∈ marks, ∀ after, t ≠ mark.1 ++ after := by
  by_cases hcomment : ∃ after, t = '/' :: '*' :: after
  · exact .inl hcomment
  by_cases hmark : ∃ mark ∈ marks, ∃ after, t = mark.1 ++ after
  · exact .inr (.inl hmark)
  · exact .inr (.inr ⟨fun after heq => hcomment ⟨after, heq⟩,
      fun mark hmem after heq => hmark ⟨mark, hmem, after, heq⟩⟩)

/-- The first token takes at least one character. -/
theorem lexeme?_suffix (c : Char) (rest : Text) : (lexeme? (c :: rest)).2 <:+ rest := by
  rcases starts_cases (c :: rest) with ⟨after, heq⟩ | ⟨mark, hmem, after, heq⟩ | ⟨hcomment, hmark⟩
  · obtain ⟨rfl, rfl⟩ := List.cons.inj heq
    exact (commentBody_suffix after).trans (List.suffix_cons ..)
  · rw [heq, lexeme?_mark hmem]
    obtain ⟨d, start, hcons⟩ := List.exists_cons_of_ne_nil (mark_plain hmem).1
    rw [hcons] at heq
    exact ⟨start, (List.cons.inj heq).2.symm⟩
  · rw [lexeme?_plain hcomment hmark]
    exact plainLexeme_suffix c rest

/-! ### All tokens -/

theorem lexemesUpTo_cons (fuel : Nat) (c : Char) (t : Text) :
    lexemesUpTo (fuel + 1) (c :: t) =
      (lexeme? (c :: t)).1.toList ++ lexemesUpTo fuel (lexeme? (c :: t)).2 := by
  rw [lexemesUpTo]
  · rcases lexeme? (c :: t) with ⟨_ | token, rest⟩ <;> rfl
  · exact List.cons_ne_nil c t

theorem lexemesUpTo_eq {fuel fuel' : Nat} {t : Text} (h : t.length ≤ fuel) (h' : t.length ≤ fuel') :
    lexemesUpTo fuel t = lexemesUpTo fuel' t := by
  induction fuel generalizing fuel' t with
  | zero =>
    obtain rfl := List.length_eq_zero_iff.1 (Nat.le_zero.1 h)
    cases fuel' <;> rfl
  | succ fuel ih =>
    cases t with
    | nil => cases fuel' <;> rfl
    | cons c t =>
      cases fuel' with
      | zero => cases h'
      | succ fuel' =>
        have hlength := (lexeme?_suffix c t).length_le
        have hrest := ih (hlength.trans (Nat.le_of_succ_le_succ h))
          (hlength.trans (Nat.le_of_succ_le_succ h'))
        rw [lexemesUpTo_cons, lexemesUpTo_cons, hrest]

/-- The tokens of a text are its first one and those of the rest. -/
theorem lexemes_cons (c : Char) (t : Text) :
    lexemes (c :: t) = (lexeme? (c :: t)).1.toList ++ lexemes (lexeme? (c :: t)).2 := by
  rw [lexemes, List.length_cons, lexemesUpTo_cons,
    lexemesUpTo_eq (lexeme?_suffix c t).length_le le_rfl]
  rfl

theorem length_lexemesUpTo_le (fuel : Nat) (t : Text) : (lexemesUpTo fuel t).length ≤ fuel := by
  induction fuel generalizing t with
  | zero => exact le_rfl
  | succ fuel ih =>
    cases t with
    | nil => exact Nat.zero_le _
    | cons c t =>
      have hfirst : (lexeme? (c :: t)).1.toList.length ≤ 1 := Option.length_toList_le
      rw [lexemesUpTo_cons, List.length_append, Nat.add_comm]
      exact Nat.add_le_add (ih _) hfirst

theorem length_lexemes_le (t : Text) : (lexemes t).length ≤ t.length :=
  length_lexemesUpTo_le t.length t

theorem urlBody_ne_comma (t : Text) : (urlBody t).1 ≠ .comma := by
  fun_induction urlBody t <;> first | assumption | exact Lexeme.noConfusion

theorem numeric_ne_comma (t : Text) : (numeric t).1 ≠ .comma := by
  rw [numeric_eq]
  unfold numberEnd
  split
  · exact Lexeme.noConfusion
  · split <;> exact Lexeme.noConfusion

theorem identLike_ne_comma (t : Text) : (identLike t).1 ≠ .comma := by
  rw [identLike_eq]
  unfold wordEnd
  split
  · split
    · dsimp only
      split
      · exact Lexeme.noConfusion
      · exact urlBody_ne_comma _
    · exact Lexeme.noConfusion
  · exact Lexeme.noConfusion

theorem plainLexeme_eq_comma {c : Char} {t : Text} (h : (plainLexeme c t).1 = .comma) :
    c = ',' := by
  unfold plainLexeme at h
  split at h
  case h_9 => rfl
  case h_12 =>
    split_ifs at h
    · rcases hvalue : (stringBody c t).1 with _ | value <;> rw [hvalue] at h <;> cases h
    · exact absurd h (numeric_ne_comma _)
    · exact absurd h (identLike_ne_comma _)
  case h_1 => split_ifs at h
  case h_2 => split_ifs at h
  case h_3 =>
    split_ifs at h
    exact absurd h (numeric_ne_comma _)
  case h_4 =>
    split_ifs at h
    · exact absurd h (numeric_ne_comma _)
    · exact absurd h (identLike_ne_comma _)
  all_goals cases h

/-- Only a comma is read as a comma. -/
theorem lexeme?_eq_comma {c : Char} {t : Text} (h : (lexeme? (c :: t)).1 = some .comma) :
    c = ',' := by
  rcases starts_cases (c :: t) with ⟨after, heq⟩ | ⟨mark, hmem, after, heq⟩ | ⟨hcomment, hmark⟩
  · rw [heq] at h
    cases h
  · rw [heq, lexeme?_mark hmem, Option.some.injEq] at h
    have hall : marks.all (fun mark => mark.2 != .comma) = true := rfl
    exact absurd h (bne_iff_ne.1 (List.all_eq_true.1 hall mark hmem))
  · rw [lexeme?_plain hcomment hmark, Option.some.injEq] at h
    exact plainLexeme_eq_comma h

/-- Every comma among the tokens is one of the text. -/
theorem count_comma_lexemes_le (t : Text) : (lexemes t).count .comma ≤ t.count ',' := by
  induction hn : t.length using Nat.strongRecOn generalizing t with
  | _ n ih =>
  cases t with
  | nil => exact le_rfl
  | cons c t =>
    have hsuffix := lexeme?_suffix c t
    have hlt : (lexeme? (c :: t)).2.length < n := by
      rw [← hn]
      exact Nat.lt_succ_of_le hsuffix.length_le
    have hrest := (ih _ hlt _ rfl).trans (hsuffix.sublist.count_le ',')
    have htoken : (lexeme? (c :: t)).1.toList.count .comma ≤ if c == ',' then 1 else 0 := by
      cases hfirst : (lexeme? (c :: t)).1 with
      | none => exact Nat.zero_le _
      | some token =>
        by_cases hcomma : token = .comma
        · rw [if_pos (beq_iff_eq.2 (lexeme?_eq_comma (hcomma ▸ hfirst)))]
          exact List.count_le_length
        · rw [Option.toList_some, List.count_singleton, if_neg (by simpa using hcomma)]
          exact Nat.zero_le _
    rw [lexemes_cons, List.count_append, List.count_cons]
    omega

end Playbill.Css
