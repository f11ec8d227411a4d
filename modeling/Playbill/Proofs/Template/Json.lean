import Playbill.Proofs.Json.Compact
import Playbill.Proofs.Json.Members
import Playbill.Proofs.Template.Segments

/-!
# Templates in JSON

A JSON template can be resolved value by value, and it can be resolved as the text that it is
written as.  Quotes end every token, so that both give the same as long as neither parentheses nor
escapes come between.

* `Json.strings`, `Json.objects`, `Json.keys`: the strings, objects and keys at any depth.
* `Copies`: a text whose tokens are replaced alike in the text and in its string literal;
  `resolve_quote_append`: so they are.
* `leading?_colon_compact`: the colon before a value starts no token.
* `resolve_compact`: both ways of resolution agree.
-/

namespace Playbill

namespace Json

mutual

/-- The strings of a value at any depth; keys are not among them. -/
def strings : Json → List Text
  | .string t => [t]
  | .array items => stringsOfItems items
  | .object members => stringsOfMembers members
  | _ => []

/-- The strings of the items of an array. -/
def stringsOfItems : List Json → List Text
  | [] => []
  | item :: items => strings item ++ stringsOfItems items

/-- The strings of the values of members. -/
def stringsOfMembers : List (Text × Json) → List Text
  | [] => []
  | (_, value) :: members => strings value ++ stringsOfMembers members

end

mutual

/-- The members of every object of a value, at any depth. -/
def objects : Json → List (List (Text × Json))
  | .array items => objectsOfItems items
  | .object members => members :: objectsOfMembers members
  | _ => []

/-- The objects of the items of an array. -/
def objectsOfItems : List Json → List (List (Text × Json))
  | [] => []
  | item :: items => objects item ++ objectsOfItems items

/-- The objects of the values of members. -/
def objectsOfMembers : List (Text × Json) → List (List (Text × Json))
  | [] => []
  | (_, value) :: members => objects value ++ objectsOfMembers members

end

/-- The keys of a value at any depth. -/
def keys (v : Json) : List Text :=
  v.objects.flatMap fun members => members.map Prod.fst

/-- Every object keeps its members in the order of their keys. -/
def Ordered (v : Json) : Prop :=
  ∀ members ∈ v.objects, Members.InOrder members

end Json

open Json (IsPlain escapeChar quote)

namespace Placeholder

theorem isPlain_of_isPathChar {x : Char} (hx : isPathChar x) : IsPlain x where
  ne_quote := by
    rintro rfl
    exact absurd hx (by decide)
  ne_backslash := by
    rintro rfl
    exact absurd hx (by decide)
  le_toNat := by
    have hcontrols : ∀ n < 0x20, isPathChar (Char.ofNat n) = false := by decide
    by_contra hlt
    have hnone := hcontrols x.toNat (by omega)
    rw [Char.ofNat_toNat, hx] at hnone
    cases hnone

theorem arguments_eq_none {p : Placeholder} (h : '(' ∉ p.text) : p.arguments = none := by
  obtain ⟨path, _ | arguments⟩ := p
  · rfl
  · simp [text] at h

/-- A token without arguments stands for itself inside a string literal. -/
theorem isPlain_of_mem_text {p : Placeholder} (hp : p.IsToken) (h : '(' ∉ p.text) :
    ∀ x ∈ p.text, IsPlain x := by
  have htext : p.text = ':' :: p.path ++ [':'] := by simp [text, arguments_eq_none h]
  rw [htext]
  exact List.forall_mem_append.2 ⟨List.forall_mem_cons.2
    ⟨by decide, fun x hx => isPlain_of_isPathChar (hp.path_char x hx)⟩,
    List.forall_mem_singleton.2 (by decide)⟩

/-! ### Colons that start no token -/

theorem leading?_colon_of_not_start {x : Char} (hx : isPathStart x = false) (t : Text) :
    leading? (':' :: x :: t) = none := by
  have hhead : ((x :: t).takeWhile isPathChar).head?.any isPathStart = false := by
    rw [List.takeWhile_cons]
    split_ifs <;> simp [hx]
  simp [leading?, hhead]

/-- A token goes past its colon through characters of its path to a parenthesis or another colon. -/
theorem leading?_colon_of_stop {t : Text} (hcolon : ':' ∉ t) (hopen : '(' ∉ t) {stop : Char}
    (hpath : isPathChar stop = false) (hstop : stop ≠ ':' ∧ stop ≠ '(') (rest : Text) :
    leading? (':' :: (t ++ stop :: rest)) = none := by
  cases hlead : leading? (':' :: (t ++ stop :: rest)) with
  | none => rfl
  | some found =>
    obtain ⟨p, after⟩ := found
    obtain ⟨hp, htext⟩ := leading?_eq_some_iff.1 hlead
    obtain ⟨mark, tail, hmark, heq⟩ : ∃ mark tail, (mark = ':' ∨ mark = '(') ∧
        t ++ stop :: rest = p.path ++ mark :: tail := by
      obtain ⟨path, _ | arguments⟩ := p
      · exact ⟨':', after, .inl rfl, by simpa [text] using htext⟩
      · exact ⟨'(', arguments ++ [')', ':'] ++ after, .inr rfl, by simpa [text] using htext⟩
    have hmarkNe : stop ≠ mark ∧ mark ∉ t := by
      rcases hmark with rfl | rfl
      · exact ⟨hstop.1, hcolon⟩
      · exact ⟨hstop.2, hopen⟩
    rcases List.append_eq_append_iff.1 heq with ⟨more, hmore, hrest⟩ | ⟨more, hmore, hrest⟩
    · cases more with
      | nil => exact absurd (List.cons.inj hrest).1 hmarkNe.1
      | cons x more =>
        obtain ⟨rfl, -⟩ := List.cons.inj hrest
        have hmem : stop ∈ p.path := hmore ▸ List.mem_append_right t List.mem_cons_self
        exact absurd (hp.path_char stop hmem) (by rw [hpath]; decide)
    · cases more with
      | nil => exact absurd (List.cons.inj hrest).1.symm hmarkNe.1
      | cons x more =>
        obtain ⟨rfl, -⟩ := List.cons.inj hrest
        exact absurd (hmore ▸ List.mem_append_right p.path List.mem_cons_self) hmarkNe.2

/-- The colon in front of the value of a member starts no token, since a comma or a brace comes
after the value. -/
theorem leading?_colon_compact (v : Json) {stop : Char}
    (hstop : stop = ',' ∨ stop = Char.ofNat 0x7D) (rest : Text) :
    leading? (':' :: (v.compact ++ stop :: rest)) = none := by
  have hpath : isPathChar stop = false ∧ stop ≠ ':' ∧ stop ≠ '(' := by
    rcases hstop with rfl | rfl <;> decide
  have hword {t : Text} (hcolon : ':' ∉ t) (hopen : '(' ∉ t) :
      leading? (':' :: (t ++ stop :: rest)) = none :=
    leading?_colon_of_stop hcolon hopen hpath.1 hpath.2 rest
  cases v with
  | null => exact hword (by decide) (by decide)
  | bool b => cases b <;> exact hword (by decide) (by decide)
  | number n =>
    exact hword (fun h => absurd (Json.isNumberChar_of_mem_text n _ h) (by decide))
      (fun h => absurd (Json.isNumberChar_of_mem_text n _ h) (by decide))
  | string t => exact leading?_colon_of_not_start (by decide) _
  | array items => exact leading?_colon_of_not_start (by decide) _
  | object members => exact leading?_colon_of_not_start (by decide) _

end Placeholder

namespace Template

open Placeholder (leading? leading?_eq_some_iff leading?_of_ne leading?_colon_compact)

variable {c : Context}

/-! ### String literals -/

/-- The tokens of a text are replaced alike in the text and in its string literal: none has
arguments, and what they are replaced by needs no escapes. -/
structure Copies (c : Context) (t : Text) : Prop where
  no_parenthesis : '(' ∉ t
  plain : ∀ p, .placeholder p ∈ segments t →
    ∀ value, (c.find? p.path).bind (render? c) = some value → ∀ x ∈ value, IsPlain x

theorem Copies.of_token {p : Placeholder} (hp : p.IsToken) {t : Text}
    (h : Copies c (p.text ++ t)) : (∀ x ∈ p.text, IsPlain x) ∧
      (∀ x ∈ resolveSegment c (.placeholder p), IsPlain x) ∧ Copies c t := by
  have hopen := h.no_parenthesis
  rw [List.mem_append, not_or] at hopen
  have hplain := h.plain
  rw [segments_text_append hp] at hplain
  have htext := Placeholder.isPlain_of_mem_text hp hopen.1
  refine ⟨htext, ?_, hopen.2, fun q hq => hplain q (List.mem_cons_of_mem _ hq)⟩
  simp only [resolveSegment]
  cases hvalue : (c.find? p.path).bind (render? c) with
  | none => exact htext
  | some value => exact hplain p List.mem_cons_self value hvalue

theorem Copies.of_literal {x : Char} {t : Text} (hlead : leading? (x :: t) = none)
    (h : Copies c (x :: t)) : Copies c t where
  no_parenthesis hmem := h.no_parenthesis (List.mem_cons_of_mem x hmem)
  plain p hp := by
    refine h.plain p ?_
    rw [segments_of_none hlead]
    exact List.mem_cons_of_mem _ hp

/-- A token of a string literal ends within it, and is a token of the text that is written there. -/
theorem leading?_of_escaped {t rest : Text} (hopen : '(' ∉ t)
    (hlead : leading? (':' :: t) = none) :
    leading? (':' :: (t.flatMap escapeChar ++ '"' :: rest)) = none := by
  cases hfound : leading? (':' :: (t.flatMap escapeChar ++ '"' :: rest)) with
  | none => rfl
  | some found =>
    obtain ⟨p, after⟩ := found
    obtain ⟨hp, htext⟩ := leading?_eq_some_iff.1 hfound
    have hpath : ∀ x ∈ p.path, IsPlain x :=
      fun x hx => Placeholder.isPlain_of_isPathChar (hp.path_char x hx)
    have hstart {mark : Char} (hmark : IsPlain mark)
        (h : p.path ++ [mark] <+: t.flatMap escapeChar ++ '"' :: rest) : p.path ++ [mark] <+: t :=
      Json.prefix_of_escaped (List.forall_mem_append.2 ⟨hpath, by simpa using hmark⟩) h
    obtain ⟨path, _ | arguments⟩ := p
    · have hprefix : path ++ [':'] <+: t.flatMap escapeChar ++ '"' :: rest :=
        ⟨after, by simpa [Placeholder.text] using htext.symm⟩
      obtain ⟨tail, rfl⟩ := hstart (by decide) hprefix
      have hself : leading? (':' :: (path ++ [':'] ++ tail)) = some (⟨path, none⟩, tail) :=
        leading?_eq_some_iff.2 ⟨hp, by simp [Placeholder.text]⟩
      cases hlead.symm.trans hself
    · have hprefix : path ++ ['('] <+: t.flatMap escapeChar ++ '"' :: rest :=
        ⟨arguments ++ [')', ':'] ++ after, by simpa [Placeholder.text] using htext.symm⟩
      exact absurd ((hstart (by decide) hprefix).subset (by simp)) hopen

theorem resolve_escape_append {t : Text} (h : Copies c t) (rest : Text) :
    resolve c (t.flatMap escapeChar ++ '"' :: rest) =
      (resolve c t).flatMap escapeChar ++ '"' :: resolve c rest := by
  induction t using segments.induct with
  | case1 =>
    have hquote : '"' ≠ ':' := by decide
    rw [resolve_nil]
    exact resolve_cons_of_ne hquote rest
  | case2 x t p after hlead ih =>
    obtain ⟨hp, htext⟩ := leading?_eq_some_iff.1 hlead
    rw [htext] at h ⊢
    obtain ⟨hself, hshown, hafter⟩ := h.of_token hp
    rw [List.flatMap_append, Json.escape_of_isPlain hself, List.append_assoc,
      resolve_text_append hp, ih hafter, resolve_text_append hp, List.flatMap_append,
      Json.escape_of_isPlain hshown, List.append_assoc]
  | case3 x t hlead ih =>
    have hrest := ih (h.of_literal hlead)
    rw [resolve_of_none hlead, List.flatMap_cons, List.flatMap_cons, List.append_assoc,
      List.append_assoc, ← hrest]
    by_cases hx : x = ':'
    · subst hx
      have hopen : '(' ∉ t := fun hmem => h.no_parenthesis (List.mem_cons_of_mem _ hmem)
      exact resolve_of_none (leading?_of_escaped hopen hlead)
    · exact resolve_append_of_notMem (Json.colon_notMem_escapeChar hx) _

theorem resolve_quote_append {t : Text} (h : Copies c t) (rest : Text) :
    resolve c (quote t ++ rest) = quote (resolve c t) ++ resolve c rest := by
  simp only [quote, List.append_assoc, List.cons_append, List.nil_append]
  rw [resolve_cons_of_ne (by decide), resolve_escape_append h]

/-! ### Values -/

/-- The keys of members are copied and stay as they are. -/
def KeepsKeys (c : Context) (members : List (Text × Json)) : Prop :=
  ∀ key ∈ members.map Prod.fst, Copies c key ∧ resolve c key = key

theorem keys_resolveMembers {members : List (Text × Json)} (h : KeepsKeys c members) :
    (resolveMembers c members).map Prod.fst = members.map Prod.fst := by
  induction members with
  | nil => rfl
  | cons member members ih =>
    obtain ⟨key, value⟩ := member
    obtain ⟨hkey, hmembers⟩ := List.forall_mem_cons.1 h
    rw [resolveMembers, List.map_cons, List.map_cons, ih hmembers, hkey.2]

mutual

theorem resolve_compact_append : ∀ (v : Json), (∀ t ∈ v.strings, Copies c t) →
    (∀ members ∈ v.objects, Members.InOrder members ∧ KeepsKeys c members) → ∀ rest : Text,
    resolve c (v.compact ++ rest) = (resolveJson c v).compact ++ resolve c rest
  | .null, _, _, rest => resolve_append_of_notMem (by decide) rest
  | .bool true, _, _, rest => resolve_append_of_notMem (by decide) rest
  | .bool false, _, _, rest => resolve_append_of_notMem (by decide) rest
  | .number n, _, _, rest =>
    resolve_append_of_notMem
      (fun h => absurd (Json.isNumberChar_of_mem_text n _ h) (by decide)) rest
  | .string t, hstrings, _, rest => resolve_quote_append (hstrings t List.mem_cons_self) rest
  | .array items, hstrings, hobjects, rest => by
    simp only [Json.compact, resolveJson, List.append_assoc, List.cons_append, List.nil_append]
    rw [resolve_cons_of_ne (by decide), resolve_compactItems_append items hstrings hobjects,
      resolve_cons_of_ne (by decide)]
  | .object members, hstrings, hobjects, rest => by
    obtain ⟨⟨hinOrder, hkeys⟩, hobjects⟩ := List.forall_mem_cons.1 hobjects
    have hmembers : Members.ofList (resolveMembers c members) = resolveMembers c members :=
      Members.ofList_of_inOrder (by rwa [Members.InOrder, keys_resolveMembers hkeys])
    simp only [Json.compact, resolveJson, Json.ofMembers, hmembers, List.append_assoc,
      List.cons_append, List.nil_append]
    rw [resolve_cons_of_ne (by decide),
      resolve_compactMembers_append members hkeys hstrings hobjects]

theorem resolve_compactItems_append : ∀ (items : List Json),
    (∀ t ∈ Json.stringsOfItems items, Copies c t) →
    (∀ members ∈ Json.objectsOfItems items, Members.InOrder members ∧ KeepsKeys c members) →
    ∀ rest : Text, resolve c (Json.compactItems items ++ rest) =
      Json.compactItems (resolveItems c items) ++ resolve c rest
  | [], _, _, _ => rfl
  | item :: items, hstrings, hobjects, rest => by
    obtain ⟨hstring, hstrings⟩ := List.forall_mem_append.1 hstrings
    obtain ⟨hobject, hobjects⟩ := List.forall_mem_append.1 hobjects
    have hitems := resolve_compactItems_append items hstrings hobjects rest
    cases items with
    | nil => exact resolve_compact_append item hstring hobject rest
    | cons next items =>
      simp only [Json.compactItems, resolveItems, List.append_assoc, List.cons_append,
        List.nil_append] at hitems ⊢
      rw [resolve_compact_append item hstring hobject, resolve_cons_of_ne (by decide), hitems]

theorem resolve_compactMembers_append : ∀ (members : List (Text × Json)), KeepsKeys c members →
    (∀ t ∈ Json.stringsOfMembers members, Copies c t) →
    (∀ object ∈ Json.objectsOfMembers members, Members.InOrder object ∧ KeepsKeys c object) →
    ∀ rest : Text, resolve c (Json.compactMembers members ++ Char.ofNat 0x7D :: rest) =
      Json.compactMembers (resolveMembers c members) ++ Char.ofNat 0x7D :: resolve c rest
  | [], _, _, _, rest => resolve_cons_of_ne (by decide) rest
  | (key, value) :: members, hkeys, hstrings, hobjects, rest => by
    obtain ⟨hkey, hkeys⟩ := List.forall_mem_cons.1 hkeys
    obtain ⟨hstring, hstrings⟩ := List.forall_mem_append.1 hstrings
    obtain ⟨hobject, hobjects⟩ := List.forall_mem_append.1 hobjects
    have hmembers := resolve_compactMembers_append members hkeys hstrings hobjects rest
    cases members with
    | nil =>
      simp only [Json.compactMembers, resolveMembers, List.append_assoc, List.cons_append,
        List.nil_append]
      rw [resolve_quote_append hkey.1, resolve_of_none (leading?_colon_compact value (.inr rfl) _),
        resolve_compact_append value hstring hobject, resolve_cons_of_ne (by decide)]
    | cons next members =>
      simp only [Json.compactMembers, resolveMembers, List.append_assoc, List.cons_append,
        List.nil_append] at hmembers ⊢
      rw [resolve_quote_append hkey.1, resolve_of_none (leading?_colon_compact value (.inl rfl) _),
        resolve_compact_append value hstring hobject, resolve_cons_of_ne (by decide), hmembers]

end

/-- **A template can be resolved as the text it is written as**: this gives the text of the template
resolved value by value, if no string or key has a parenthesis, no key changes, and nothing that is
put in for a token has to be escaped. -/
theorem resolve_compact (c : Context) (v : Json) (hordered : v.Ordered)
    (htexts : ∀ t ∈ v.strings ++ v.keys, Copies c t) (hkeys : ∀ key ∈ v.keys, resolve c key = key) :
    resolve c v.compact = (resolveJson c v).compact := by
  have hobjects : ∀ members ∈ v.objects, Members.InOrder members ∧ KeepsKeys c members := by
    intro members hmembers
    refine ⟨hordered members hmembers, fun key hkey => ?_⟩
    have hmem : key ∈ v.keys := List.mem_flatMap.2 ⟨members, hmembers, hkey⟩
    exact ⟨htexts key (List.mem_append_right _ hmem), hkeys key hmem⟩
  have h := resolve_compact_append v
    (fun t ht => htexts t (List.mem_append_left _ ht)) hobjects []
  rwa [List.append_nil, resolve_nil, List.append_nil] at h

/-- A place where the day is known. -/
def monday : Context :=
  ({ lineage := [0] } : Context).withVar ['d', 'a', 'y'] (.string ['m', 'o', 'n'])

/-- A template with a token next to a quote. -/
def quotedDay : Json :=
  .object [(['d', 'a', 'y'], .array [.string [':', 'd', 'a', 'y', ':', '"'], .null])]

theorem copies_token : Copies monday [':', 'd', 'a', 'y', ':', '"'] where
  no_parenthesis := by decide
  plain p hp value hvalue := by
    have hsegments : segments [':', 'd', 'a', 'y', ':', '"'] =
        [.placeholder ⟨['d', 'a', 'y'], none⟩, .literal '"'] := by
      cbv
    obtain rfl : p = ⟨['d', 'a', 'y'], none⟩ := by simpa [hsegments] using hp
    have hpath : PathStep.ofPath ['d', 'a', 'y'] = [.key ['d', 'a', 'y']] := by
      cbv
    rw [Context.find?, hpath] at hvalue
    obtain rfl : ['m', 'o', 'n'] = value := Option.some.inj hvalue
    exact List.forall_mem_cons.2 ⟨by decide,
      List.forall_mem_cons.2 ⟨by decide, List.forall_mem_singleton.2 (by decide)⟩⟩

theorem copies_key : Copies monday ['d', 'a', 'y'] where
  no_parenthesis := by decide
  plain p hp := by
    have hsegments : segments ['d', 'a', 'y'] = [.literal 'd', .literal 'a', .literal 'y'] := by
      cbv
    simp [hsegments] at hp

/-- The quote is escaped in the text of the template, after the token as before. -/
theorem resolve_compact_quotedDay :
    quotedDay.Ordered ∧ (∀ t ∈ quotedDay.strings ++ quotedDay.keys, Copies monday t) ∧
      (∀ key ∈ quotedDay.keys, resolve monday key = key) ∧
      resolve monday quotedDay.compact = (resolveJson monday quotedDay).compact := by
  have hordered : quotedDay.Ordered := by
    rintro members (_ | ⟨_, ⟨⟩⟩)
    exact List.pairwise_singleton ..
  have htexts : ∀ t ∈ quotedDay.strings ++ quotedDay.keys, Copies monday t :=
    List.forall_mem_cons.2 ⟨copies_token, List.forall_mem_singleton.2 copies_key⟩
  have hkeys : ∀ key ∈ quotedDay.keys, resolve monday key = key := by
    refine List.forall_mem_singleton.2 ?_
    have h := resolve_append_of_notMem (c := monday) (u := ['d', 'a', 'y']) (by decide) []
    rwa [List.append_nil, resolve_nil, List.append_nil] at h
  exact ⟨hordered, htexts, hkeys, resolve_compact monday quotedDay hordered htexts hkeys⟩

end Template

end Playbill
