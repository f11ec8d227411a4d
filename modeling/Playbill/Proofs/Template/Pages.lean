import Playbill.Proofs.Json.Members
import Playbill.Proofs.Template.PageRange

/-!
# Templates for several pages

A template with a page range is resolved once for each page.  The range is found by one grammar and
resolved by another, that of tokens.

* `Template.LeavesColon`: a colon after a text is no part of a token; `segments_append_colon`: then
  the tokens of the text do not depend on what follows the colon.
* `Template.StandsAlone`, `standsAlone_iff`: when a range is one of the tokens of its template.
* `onEachPage_substitutes`: such a range resolves to the page, with the text around it resolved on a
  branch where the variable `page` is the page.
-/

namespace Playbill

namespace Placeholder

/-- A token that starts a text with a colon behind its start ends at that colon or before it. -/
theorem IsToken.append_eq_append_colon {p : Placeholder} (hp : p.IsToken) {t u rest : Text}
    (ht : t ≠ []) (h : t ++ ':' :: u = p.text ++ rest) :
    ∃ rest', t ++ [':'] = p.text ++ rest' ∧ rest = rest' ++ u := by
  obtain ⟨body, hbody, htext⟩ := hp.exists_text_eq
  obtain ⟨c, t, rfl⟩ := List.exists_cons_of_ne_nil ht
  rw [htext] at h ⊢
  simp only [List.cons_append, List.append_assoc, List.cons.injEq] at h ⊢
  obtain ⟨rfl, h⟩ := h
  -- The second colon of the token is the given one, or else it lies in the text before.
  rcases List.append_eq_append_iff.1 h with ⟨x, rfl, hx⟩ | ⟨x, rfl, hx⟩
  · cases x with
    | nil =>
      obtain ⟨-, rfl⟩ := List.cons.inj hx
      exact ⟨[], by simp⟩
    | cons d x =>
      obtain ⟨rfl, -⟩ := List.cons.inj hx
      simp at hbody
  · cases x with
    | nil =>
      obtain ⟨-, rfl⟩ := List.cons.inj hx
      exact ⟨[], by simp⟩
    | cons d x =>
      obtain ⟨rfl, rfl⟩ := List.cons.inj hx
      exact ⟨x ++ [':'], by simp⟩

/-- Whether a token starts a text, and which, is settled up to any colon behind its start. -/
theorem leading?_append_colon {t : Text} (ht : t ≠ []) (u : Text) :
    leading? (t ++ ':' :: u) =
      (leading? (t ++ [':'])).map fun found => (found.1, found.2 ++ u) := by
  ext ⟨p, rest⟩
  simp only [Option.map_eq_some_iff, Prod.exists, Prod.mk.injEq]
  constructor
  · intro h
    obtain ⟨hp, htext⟩ := leading?_eq_some_iff.1 h
    obtain ⟨rest', htext', rfl⟩ := hp.append_eq_append_colon ht htext
    exact ⟨p, rest', leading?_eq_some_iff.2 ⟨hp, htext'⟩, rfl, rfl⟩
  · rintro ⟨p, rest, h, rfl, rfl⟩
    simpa using leading?_append h u

end Placeholder

namespace Template

open Placeholder (IsToken shown isArgumentChar isPathChar leading? leading?_eq_some_iff
  leading?_eq_none_of_append leading?_append_colon takeWhile_dropWhile_append)

/-! ### Texts before a colon -/

/-- A colon after a text is no part of a token. -/
def LeavesColon (t : Text) : Prop :=
  segments (t ++ [':']) = segments t ++ [.literal ':']

theorem leavesColon_nil : LeavesColon [] := by
  cbv

/-- The segments before a colon are those of the text before it, or else a token takes the colon and
they are not. -/
theorem segments_append_colon (t u : Text) :
    LeavesColon t ∧ segments (t ++ ':' :: u) = segments t ++ segments (':' :: u) ∨
      ¬ LeavesColon t ∧ ∀ after, segments (t ++ ':' :: u) ≠ segments t ++ after := by
  induction hn : t.length using Nat.strongRecOn generalizing t with
  | _ n ih =>
  -- A first segment that is the same with and without the colon leaves the question to the rest.
  have hpeel {s : Segment} {rest : Text} (hlt : rest.length < n)
      (hcolon : segments (t ++ [':']) = s :: segments (rest ++ [':']))
      (hself : segments t = s :: segments rest)
      (happend : segments (t ++ ':' :: u) = s :: segments (rest ++ ':' :: u)) :
      LeavesColon t ∧ segments (t ++ ':' :: u) = segments t ++ segments (':' :: u) ∨
        ¬ LeavesColon t ∧ ∀ after, segments (t ++ ':' :: u) ≠ segments t ++ after := by
    simpa [LeavesColon, hcolon, hself, happend] using ih _ hlt rest rfl
  cases t with
  | nil => exact .inl ⟨leavesColon_nil, by simp [segments]⟩
  | cons c t =>
    have hcolon := leading?_append_colon (List.cons_ne_nil c t) u
    cases hlead : leading? (c :: t ++ [':']) with
    | none =>
      rw [hlead] at hcolon
      exact hpeel (by simp [← hn]) (segments_of_none hlead)
        (segments_of_none (leading?_eq_none_of_append hlead)) (segments_of_none hcolon)
    | some found =>
      obtain ⟨p, rest⟩ := found
      obtain ⟨hp, htext⟩ := leading?_eq_some_iff.1 hlead
      rcases List.eq_nil_or_concat rest with rfl | ⟨rest, d, rfl⟩
      · -- The token takes the colon, and without the colon no token starts the text.
        have hself : leading? (c :: t) = none := by
          cases h : leading? (c :: t) with
          | none => rfl
          | some found =>
            have hfound := hlead.symm.trans (Placeholder.leading?_append h [':'])
            simp at hfound
        rw [hlead] at hcolon
        refine .inr ⟨?_, fun after => ?_⟩
        · rw [LeavesColon, segments_of_leading hlead, segments_of_none hself]
          simp
        · rw [segments_of_leading hcolon, segments_of_none hself]
          simp
      · obtain ⟨ht, -⟩ : c :: t = p.text ++ rest ∧ [':'] = [d] := by
          rw [List.concat_eq_append, ← List.append_assoc] at htext
          exact List.append_inj' htext rfl
        have hlt : rest.length < n := by
          have hpos := List.length_pos_of_ne_nil p.text_ne_nil
          rw [← hn, ht, List.length_append]
          omega
        refine hpeel hlt (s := .placeholder p) ?_ ?_ ?_ <;>
          simp only [ht, List.append_assoc, segments_text_append hp]

theorem LeavesColon.segments_append {t : Text} (h : LeavesColon t) (u : Text) :
    segments (t ++ ':' :: u) = segments t ++ segments (':' :: u) :=
  ((segments_append_colon t u).resolve_right fun hn => hn.1 h).2

theorem leavesColon_of_segments {t u : Text} {after : List Segment}
    (h : segments (t ++ ':' :: u) = segments t ++ after) : LeavesColon t :=
  ((segments_append_colon t u).resolve_right fun hn => hn.2 after h).1

/-! ### The token of a range -/

/-- The token that a range with such a text between its parentheses would be. -/
def pageToken (inner : Text) : Placeholder :=
  ⟨['p', 'a', 'g', 'e'], some inner⟩

theorem text_pageToken (inner : Text) : (pageToken inner).text = PageRange.written inner := by
  simp [pageToken, Placeholder.text, PageRange.written]

theorem isPathChar_page : ∀ x ∈ ['p', 'a', 'g', 'e'], isPathChar x :=
  List.all_eq_true.1 rfl

theorem isToken_pageToken_iff {inner : Text} :
    (pageToken inner).IsToken ↔ ∀ x ∈ inner, isArgumentChar x :=
  ⟨fun h => h.argument_char inner rfl, fun h =>
    ⟨rfl, isPathChar_page, by simpa [pageToken] using h⟩⟩

/-- No other token is written like a range. -/
theorem eq_pageToken_of_text_eq {p : Placeholder} (hp : p.IsToken) {inner : Text}
    (h : p.text = PageRange.written inner) : p = pageToken inner := by
  obtain ⟨hpage, hinner⟩ := takeWhile_dropWhile_append isPathChar_page (d := '(') (by decide)
    (inner ++ [')', ':'])
  obtain ⟨path, _ | arguments⟩ := p
  · -- The path would end at a colon.
    obtain ⟨-, hdrop⟩ := takeWhile_dropWhile_append hp.path_char (d := ':') (by decide) []
    have hafter : path ++ [':'] = ['p', 'a', 'g', 'e'] ++ '(' :: (inner ++ [')', ':']) := by
      simpa [Placeholder.text, PageRange.written] using h
    rw [hafter, hinner] at hdrop
    simp at hdrop
  · obtain ⟨htake, hdrop⟩ := takeWhile_dropWhile_append hp.path_char (d := '(') (by decide)
      (arguments ++ [')', ':'])
    have hafter : path ++ '(' :: (arguments ++ [')', ':']) =
        ['p', 'a', 'g', 'e'] ++ '(' :: (inner ++ [')', ':']) := by
      simpa [Placeholder.text, PageRange.written] using h
    rw [hafter, hpage] at htake
    rw [hafter, hinner] at hdrop
    obtain rfl : inner = arguments := by simpa using hdrop
    rw [pageToken, htake]

/-- A range is a token by itself if the text before it leaves its first colon alone and a list has
no parenthesis or colon inside. -/
structure StandsAlone (before : Text) (range : PageRange) : Prop where
  colon : LeavesColon before
  body : ∀ body, range = .list body → ∀ x ∈ body, isArgumentChar x

theorem isArgumentChar_of_isNumeral {digits written : Text}
    (h : PageRange.IsNumeral digits written) : ∀ x ∈ written, isArgumentChar x := by
  obtain ⟨-, hdigits, before, after, hbefore, hafter, rfl⟩ := h
  have hmark : ∀ x, isBlank x ∨ isWordDigit x → isArgumentChar x := by
    intro x hx
    by_contra hmark
    have : x = '(' ∨ x = ')' ∨ x = ':' := by
      simpa [isArgumentChar, or_iff_not_imp_left] using hmark
    rcases this with rfl | rfl | rfl <;> exact absurd hx (by decide +kernel)
  intro x hx
  simp only [List.mem_append] at hx
  rcases hx with (hx | hx) | hx
  · exact hmark x (.inl (hbefore x hx))
  · exact hmark x (.inr (hdigits x hx))
  · exact hmark x (.inl (hafter x hx))

/-- Between its parentheses only a list may hold what an argument may not. -/
theorem isArgumentChar_inner_iff {range : PageRange} {inner : Text} (h : range.Spells inner) :
    (∀ x ∈ inner, isArgumentChar x) ↔
      ∀ body, range = .list body → ∀ x ∈ body, isArgumentChar x := by
  cases h with
  | span hfirst hlast =>
    have hu := isArgumentChar_of_isNumeral hfirst
    have hv := isArgumentChar_of_isNumeral hlast
    have hcomma : isArgumentChar ',' := by decide
    simp only [reduceCtorEq, false_implies, implies_true, iff_true]
    simpa [or_imp, forall_and, hcomma] using ⟨hu, hv⟩
  | list hbody =>
    have hbrackets : isArgumentChar '[' ∧ isArgumentChar ']' := by decide
    simp [or_imp, forall_and, hbrackets]

/-- A range is one of the tokens of its template exactly if it stands alone. -/
theorem standsAlone_iff {t before inner after : Text} {range : PageRange}
    (h : range.FirstOf t before inner after) :
    StandsAlone before range ↔ ∃ p : Placeholder, p.text = PageRange.written inner ∧
      segments t = segments before ++ .placeholder p :: segments after := by
  have hcons : PageRange.written inner ++ after =
      ':' :: ("page(".toList ++ inner ++ "):".toList ++ after) := by
    simp [PageRange.written]
  constructor
  · intro halone
    have hp := isToken_pageToken_iff.2 ((isArgumentChar_inner_iff h.spells).2 halone.body)
    refine ⟨pageToken inner, text_pageToken inner, ?_⟩
    rw [h.text, List.append_assoc, hcons, halone.colon.segments_append, ← hcons, ← text_pageToken,
      segments_text_append hp]
  · rintro ⟨p, htext, hsegments⟩
    have hp : p.IsToken := isToken_of_mem_segments (t := t) (by simp [hsegments])
    obtain rfl := eq_pageToken_of_text_eq hp htext
    refine ⟨?_, (isArgumentChar_inner_iff h.spells).1 (isToken_pageToken_iff.1 hp)⟩
    rw [h.text, List.append_assoc, hcons] at hsegments
    exact leavesColon_of_segments hsegments

/-! ### Resolution -/

theorem ofPath_page : PathStep.ofPath ['p', 'a', 'g', 'e'] = [.key ['p', 'a', 'g', 'e']] := by
  cbv

/-- Where the variable `page` is set, a range that is a token shows it. -/
theorem shown_pageToken (c : Context) (page inner : Text) :
    shown (c.withVar "page" (.string page)) (pageToken inner) = page := by
  have hvar : (c.withVar ['p', 'a', 'g', 'e'] (.string page)).var? ['p', 'a', 'g', 'e'] =
      some (.string page) :=
    Members.find?_insert_self ..
  have hfind : (c.withVar "page" (.string page)).find? ['p', 'a', 'g', 'e'] =
      some (.json (.string page)) := by
    simp [Context.find?, ofPath_page, Context.findSteps?, hvar, Json.follow?]
  rw [shown, pageToken, hfind]

theorem resolve_of_segments {c : Context} {t before after : Text} {p : Placeholder}
    (h : segments t = segments before ++ .placeholder p :: segments after) :
    resolve c t = resolve c before ++ shown c p ++ resolve c after := by
  simp only [resolve, h, List.flatMap_append, List.flatMap_cons, resolveSegment_placeholder,
    List.append_assoc]

theorem resolve_of_literals {t : Text} (h : segments t = t.map .literal) (c : Context) :
    resolve c t = t := by
  simp [resolve, h, List.flatMap_map, resolveSegment]

/-- The branch that a page is resolved on, after some scopes have been opened. -/
def pageBranch (c : Context) (log : WarningLog) (page : Text) : Context :=
  (c.branch log).1.withVar "page" (.string page)

/-- Each page is resolved on a branch of its own. -/
theorem mapM_onPage (c : Context) (t : Text) (pages : List Text) (log : WarningLog) :
    (pages.mapM (onPage c t) log).1 =
      pages.mapIdx fun i page => resolve (pageBranch c (log ++ List.replicate i []) page) t := by
  induction pages generalizing log with
  | nil => rfl
  | cons page pages ih =>
    have hfirst : ((page :: pages).mapM (onPage c t) log).1 =
        resolve (pageBranch c log page) t :: (pages.mapM (onPage c t) (log ++ [[]])).1 := by
      rw [List.mapM_cons]
      rfl
    rw [hfirst, ih]
    simp [List.mapIdx_cons, List.replicate_succ]

/-- **One text for each page.**  A template with pages has a first range, and gives one text for
each page.  The range is one of its tokens exactly if it stands alone, and then every text is the
resolved text before the range, the page, and the resolved text after the range. -/
theorem onEachPage_substitutes {t : Text} {cap : Cap} {pages : List Text}
    (hpages : pages? t cap = some pages) :
    (∃ (range : PageRange) (before inner after : Text), range.FirstOf t before inner after) ∧
      ∀ (range : PageRange) (before inner after : Text), range.FirstOf t before inner after →
        (StandsAlone before range ↔ ∃ p : Placeholder, p.text = PageRange.written inner ∧
          segments t = segments before ++ .placeholder p :: segments after) ∧
        ∀ (c : Context) (log : WarningLog), ∃ texts : List Text,
          (onEachPage c t cap log).1 = some texts ∧ texts.length = pages.length ∧
            (StandsAlone before range → ∀ (i : Nat) (page : Text), pages[i]? = some page → ∃ log',
              texts[i]? = some (resolve (pageBranch c log' page) before ++ page ++
                resolve (pageBranch c log' page) after)) := by
  constructor
  · obtain ⟨⟨before, range, after⟩, hfirst, -⟩ := Option.bind_eq_some_iff.1 hpages
    obtain ⟨inner, hinner⟩ := PageRange.exists_firstOf hfirst
    exact ⟨range, before, inner, after, hinner⟩
  · intro range before inner after hfirst
    refine ⟨standsAlone_iff hfirst, fun c log => ?_⟩
    have hrun : (onEachPage c t cap log).1 = some (pages.mapM (onPage c t) log).1 := by
      rw [onEachPage, hpages]
      rfl
    rw [hrun, mapM_onPage]
    refine ⟨_, rfl, List.length_mapIdx, fun halone i page hi => ⟨log ++ List.replicate i [], ?_⟩⟩
    obtain ⟨p, htext, hsegments⟩ := (standsAlone_iff hfirst).1 halone
    obtain rfl := eq_pageToken_of_text_eq (isToken_of_mem_segments (t := t) (by simp [hsegments]))
      htext
    rw [List.getElem?_mapIdx, hi, Option.map_some, resolve_of_segments hsegments, pageBranch,
      shown_pageToken]

/-- A list after a time of day and a token. -/
def afterClock : Text := "12:30:t:q=:page([x, y]):&:t:".toList

theorem onEachPage_substitutes_afterClock :
    pages? afterClock ⟨none⟩ = some [['x'], ['y']] ∧
      (∀ (c : Context) (log : WarningLog), ∃ texts,
        (onEachPage c afterClock ⟨none⟩ log).1 = some texts ∧ texts.length = 2 ∧ ∃ log',
          texts[1]? = some (resolve (pageBranch c log' ['y']) "12:30:t:q=".toList ++ ['y'] ++
            resolve (pageBranch c log' ['y']) "&:t:".toList)) := by
  have hpages : pages? afterClock ⟨none⟩ = some [['x'], ['y']] := by decide +kernel
  have hfirst : PageRange.first? afterClock =
      some ("12:30:t:q=".toList, .list "x, y".toList, "&:t:".toList) := by decide +kernel
  obtain ⟨inner, hinner⟩ := PageRange.exists_firstOf hfirst
  have halone : StandsAlone "12:30:t:q=".toList (.list "x, y".toList) :=
    ⟨by unfold LeavesColon; cbv, by simp; decide⟩
  refine ⟨hpages, fun c log => ?_⟩
  obtain ⟨texts, hrun, hlength, htexts⟩ :=
    ((onEachPage_substitutes hpages).2 _ _ _ _ hinner).2 c log
  exact ⟨texts, hrun, hlength, htexts halone 1 ['y'] rfl⟩

/-- A list of times of day. -/
def timesOfDay : Text := "/:page([10:30]):".toList

/-- A range with a colon inside is no token: its template does not show the page. -/
theorem onEachPage_timesOfDay :
    pages? timesOfDay ⟨none⟩ = some ["10:30".toList] ∧
      (∃ inner, (PageRange.list "10:30".toList).FirstOf timesOfDay ['/'] inner []) ∧
      ∀ (c : Context) (log : WarningLog), ∃ texts,
        (onEachPage c timesOfDay ⟨none⟩ log).1 = some texts ∧ ∀ log',
          texts[0]? ≠ some (resolve (pageBranch c log' "10:30".toList) ['/'] ++ "10:30".toList ++
            resolve (pageBranch c log' "10:30".toList) []) := by
  have hpages : pages? timesOfDay ⟨none⟩ = some ["10:30".toList] := by decide +kernel
  have hfirst : PageRange.first? timesOfDay = some (['/'], .list "10:30".toList, []) := by
    decide +kernel
  have hwhole (c : Context) : resolve c timesOfDay = timesOfDay := resolve_of_literals (by cbv) c
  have hbefore (c : Context) : resolve c ['/'] = ['/'] := resolve_of_literals (by cbv) c
  have hafter (c : Context) : resolve c [] = [] := resolve_of_literals (by cbv) c
  refine ⟨hpages, PageRange.exists_firstOf hfirst, fun c log => ⟨[timesOfDay], ?_, fun log' => ?_⟩⟩
  · rw [onEachPage, hpages]
    exact congrArg (fun text => some [text]) (hwhole _)
  · rw [hbefore, hafter]
    decide

end Template

end Playbill
