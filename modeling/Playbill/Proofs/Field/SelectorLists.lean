import Playbill.Field.Extractor
import Playbill.Proofs.Selector.Lists
import Playbill.Proofs.Template.Segments

/-!
# Selector lists in fields

A field splits its selector at the commas, and each part is resolved and read on its own.

* `Template.CommaFree`: commas stand outside placeholders; `CommaFree.resolve_comma`,
  `CommaFree.of_mem_pieces`: so the pieces between them are resolved on their own.
* `splitAtCommas_resolve`: commas that all separate alternatives separate the pieces of the
  template.
* `CommaSeparated`: a template that may be split at its commas; `CommaSeparated.forall₂_parts`: each
  part is read as one of the alternatives.
* `Extractor.values_selectorList`: the field takes its values from the elements that the resolved
  selector selects.
* `Extractor.values_commaInBrackets`: a comma inside brackets is no such comma.
-/

namespace Playbill

open Css SelectorReader Template

/-! ### Commas in templates -/

/-- No placeholder is written with a comma or replaced by a text with one. -/
def Template.CommaFree (c : Context) (t : Text) : Prop :=
  ∀ p, .placeholder p ∈ segments t → ',' ∉ p.text ∧ ',' ∉ resolveSegment c (.placeholder p)

namespace Template.CommaFree

variable {c : Context} {t u v : Text}

/-- A comma belongs to no placeholder. -/
theorem segments_comma (h : CommaFree c (u ++ ',' :: v)) :
    segments (u ++ ',' :: v) = segments u ++ .literal ',' :: segments v := by
  rw [segments_append, segments_of_none (Placeholder.leading?_of_ne (by decide) v)]
  intro p hp start rest htext hrest
  obtain ⟨hcomma, -⟩ := h p hp
  rcases List.prefix_cons_iff.1 hrest with rfl | ⟨later, rfl, -⟩
  · rfl
  · exact absurd (htext ▸ List.mem_append_right _ List.mem_cons_self) hcomma

theorem left (h : CommaFree c (u ++ ',' :: v)) : CommaFree c u := fun p hp =>
  h p (h.segments_comma ▸ List.mem_append_left _ hp)

theorem right (h : CommaFree c (u ++ ',' :: v)) : CommaFree c v := fun p hp =>
  h p (h.segments_comma ▸ List.mem_append_right _ (List.mem_cons_of_mem _ hp))

theorem resolve_comma (h : CommaFree c (u ++ ',' :: v)) :
    resolve c (u ++ ',' :: v) = resolve c u ++ ',' :: resolve c v := by
  rw [resolve, h.segments_comma, List.flatMap_append, List.flatMap_cons]
  rfl

/-- Resolution adds no commas. -/
theorem count_resolve_le (h : CommaFree c t) : (resolve c t).count ',' ≤ t.count ',' := by
  unfold resolve CommaFree at *
  fun_induction segments t with
  | case1 => exact le_rfl
  | case2 x rest p after hlead ih =>
    have hrest := ih fun q hq => h q (List.mem_cons_of_mem _ hq)
    obtain ⟨-, hvalue⟩ := h p List.mem_cons_self
    rw [List.flatMap_cons, List.count_append, List.count_eq_zero.2 hvalue, Nat.zero_add,
      (Placeholder.leading?_eq_some_iff.1 hlead).2, List.count_append]
    exact hrest.trans (Nat.le_add_left _ _)
  | case3 x rest hlead ih =>
    have hrest := ih fun q hq => h q (List.mem_cons_of_mem _ hq)
    rw [List.flatMap_cons, List.count_append, List.count_cons, Nat.add_comm]
    simp only [resolveSegment, List.count_singleton]
    omega

theorem notMem_resolve (h : CommaFree c t) (ht : ',' ∉ t) : ',' ∉ resolve c t := by
  have hle := h.count_resolve_le
  rw [List.count_eq_zero.2 ht] at hle
  exact List.count_eq_zero.1 (Nat.le_zero.1 hle)

/-- Each piece of a template is resolved on its own. -/
theorem of_mem_pieces (h : CommaFree c t) {part : Text} (hpart : part ∈ Text.pieces ',' t) :
    CommaFree c part ∧ resolve c part <:+: resolve c t := by
  induction t using Text.pieces_induction ',' with
  | last t ht =>
    rw [Text.pieces_of_notMem ht] at hpart
    rw [List.mem_singleton.1 hpart]
    exact ⟨h, List.infix_rfl⟩
  | piece first later hfirst ih =>
    rw [Text.pieces_append_cons, Text.pieces_of_notMem hfirst] at hpart
    rw [h.resolve_comma]
    rcases List.mem_append.1 hpart with hpart | hpart
    · rw [List.mem_singleton.1 hpart]
      exact ⟨h.left, (List.prefix_append ..).isInfix⟩
    · obtain ⟨hfree, hwithin⟩ := ih h.right hpart
      exact ⟨hfree, hwithin.trans ⟨resolve c first ++ [','], [], by simp⟩⟩

end Template.CommaFree

/-- Blanks at the ends are no part of a placeholder. -/
theorem Template.resolve_trim_isInfix (c : Context) (t : Text) :
    resolve c (Text.trim t) <:+: resolve c t := by
  obtain ⟨before, after, ht, hbefore, hafter⟩ := Text.exists_eq_append_trim_append t
  have hcolon {u : Text} (hu : ∀ x ∈ u, isBlank x) : ':' ∉ u := fun hmem =>
    absurd (hu _ hmem) (by decide)
  have hsegments : segments (Text.trim t ++ after) = segments (Text.trim t) ++ segments after := by
    refine segments_append fun p hp start rest htext hrest => by_contra fun hne => ?_
    obtain ⟨body, -, hbody⟩ := (isToken_of_mem_segments hp).exists_text_eq
    have hlast : rest.getLast? = some ':' := by
      rw [← List.getLast?_append_of_ne_nil start hne, ← htext, hbody, List.getLast?_concat]
    exact hcolon hafter (hrest.subset (List.mem_of_getLast? hlast))
  refine ⟨before, resolve c after, ?_⟩
  conv_rhs => rw [ht, List.append_assoc, resolve_append_of_notMem (hcolon hbefore)]
  rw [List.append_assoc, resolve, resolve, resolve, hsegments, List.flatMap_append]

/-! ### Parts of a selector -/

variable {c : Context} {s : Text}

/-- Where all commas of a template separate alternatives, they separate the trees of its pieces. -/
theorem splitAtCommas_resolve (h : CommaFree c s)
    (hcount : (splitAtCommas (trees (resolve c s))).length = s.count ',' + 1) :
    splitAtCommas (trees (resolve c s)) =
      (Text.pieces ',' s).map fun part => trees (resolve c part) := by
  induction s using Text.pieces_induction ',' with
  | last s hs =>
    have hnone := countP_isComma_trees (h.notMem_resolve hs)
    rw [Text.pieces_of_notMem hs, splitAtCommas_of_countP hnone]
    rfl
  | piece first later hfirst ih =>
    have hnone := countP_isComma_trees (h.left.notMem_resolve hfirst)
    rw [h.resolve_comma] at hcount ⊢
    rcases trees_append_comma (h.left.notMem_resolve hfirst) (resolve c later) with htrees | hle
    · rw [htrees, splitAtCommas_append_comma hnone] at hcount ⊢
      rw [Text.pieces_append_cons, Text.pieces_of_notMem hfirst]
      have hlater : (splitAtCommas (trees (resolve c later))).length = later.count ',' + 1 := by
        rw [List.count_append, List.count_cons_self, List.count_eq_zero.2 hfirst,
          List.length_cons] at hcount
        omega
      rw [ih h.right hlater]
      rfl
    · -- The first comma separates nothing, so fewer commas do than there are.
      have hresolved := h.right.count_resolve_le
      rw [length_splitAtCommas, List.count_append, List.count_cons_self] at hcount
      omega

/-- Every comma of a template separates two alternatives of the list it resolves to, and the blanks
at the ends of its pieces stand between tokens. -/
structure CommaSeparated (c : Context) (s : Text) (selectors : SelectorList) : Prop where
  /-- The resolved text is accepted as a whole. -/
  read : SelectorList.read (resolve c s) = .ok selectors
  /-- No comma comes from a placeholder or stands in one. -/
  free : CommaFree c s
  /-- There is one alternative more than there are commas. -/
  count : selectors.length = s.count ',' + 1
  /-- What is cut off at the ends of a piece makes blanks, if any tokens at all. -/
  blanks : ∀ part ∈ Text.pieces ',' s, ∃ m n, lexemes (resolve c part) =
    List.replicate m .space ++ lexemes (resolve c (Text.trim part)) ++ List.replicate n .space

variable {selectors : SelectorList}

/-- Each piece is read as one of the alternatives. -/
theorem CommaSeparated.forall₂_pieces (h : CommaSeparated c s selectors) :
    List.Forall₂ (fun part selector =>
      SelectorList.read (resolve c (Text.trim part)) = .ok [selector])
      (Text.pieces ',' s) selectors := by
  have hread := h.read
  rw [SelectorList.read, list, if_neg ListKind.noConfusion] at hread
  have hstretches := forall₂_of_mapM hread
  rw [splitAtCommas_resolve h.free (hstretches.length_eq.trans h.count),
    List.forall₂_map_left_iff] at hstretches
  have hpieces := (List.forall₂_and_left _ _).2 ⟨fun part hpart => hpart, hstretches⟩
  refine hpieces.imp fun part selector hboth => ?_
  obtain ⟨hpart, hselector⟩ := hboth
  obtain ⟨hfree, hwithin⟩ := h.free.of_mem_pieces hpart
  obtain ⟨m, n, hblanks⟩ := h.blanks part hpart
  have hcomma : ',' ∉ resolve c (Text.trim part) := fun hmem =>
    hfree.notMem_resolve (Text.notMem_of_mem_pieces hpart)
      ((resolve_trim_isInfix c part).subset hmem)
  exact read_of_alternative hcomma hblanks hwithin.length_le hselector

/-- Each part is read as one of the alternatives. -/
theorem CommaSeparated.forall₂_parts (h : CommaSeparated c s selectors) :
    List.Forall₂ (fun part selector => SelectorList.read (resolve c part) = .ok [selector])
      (selectorParts s) selectors := by
  have hparts : List.Forall₂ (fun part selector =>
      SelectorList.read (resolve c part) = .ok [selector])
      ((Text.pieces ',' s).map Text.trim) selectors :=
    List.forall₂_map_left_iff.2 h.forall₂_pieces
  have hne : ∀ part ∈ (Text.pieces ',' s).map Text.trim, part.isEmpty = false := by
    refine ((List.forall₂_and_left _ _).1 (hparts.imp fun part selector hread => ⟨?_, hread⟩)).1
    cases part with
    | nil => rw [resolve_nil] at hread; cases hread
    | cons => rfl
  rwa [selectorParts, List.filter_eq_self.2 fun part hpart => by rw [hne part hpart]; rfl]

/-! ### Elements -/

variable {e : Element}

theorem partElements_of_read {part : Text}
    (hread : SelectorList.read (resolve c part) = .ok selectors)
    (hself : resolve c part ≠ itself) :
    Selection.partElements c e part = pure (e.select selectors) := by
  have hne : (resolve c part == itself) = false := beq_eq_false_iff_ne.2 hself
  rw [Selection.partElements, hne, if_neg Bool.false_ne_true, readSelector, hread, pure_bind]

/-- No warning is recorded when every part is read. -/
theorem mapM_partElements {parts : List Text} (hself : ∀ part ∈ parts, resolve c part ≠ itself)
    (h : List.Forall₂ (fun part selector => SelectorList.read (resolve c part) = .ok [selector])
      parts selectors) :
    parts.mapM (Selection.partElements c e) =
      pure (selectors.map fun selector => e.select [selector]) := by
  induction h with
  | nil => rfl
  | cons hread _ ih =>
    rw [List.forall_mem_cons] at hself
    rw [List.mapM_cons, partElements_of_read hread hself.1, pure_bind, ih hself.2, pure_bind]
    rfl

theorem anyReaches_eq_any (scope anchor : List Nat) (selectors : SelectorList) (es : List Element) :
    Complex.anyReaches scope anchor selectors es =
      selectors.any fun selector => selector.reaches scope anchor es := by
  induction selectors with
  | nil => rw [Complex.anyReaches, List.any_nil]
  | cons selector selectors ih => rw [Complex.anyReaches, List.any_cons, ih]

/-- A list selects what its alternatives select. -/
theorem mem_select {d : Element} :
    d ∈ e.select selectors ↔ ∃ selector ∈ selectors, d ∈ e.select [selector] := by
  simp only [Element.select, List.mem_filter, anyReaches_eq_any, List.any_cons, List.any_nil,
    Bool.or_false, List.any_eq_true]
  constructor
  · rintro ⟨hd, selector, hselector, hreaches⟩
    exact ⟨selector, hselector, hd, hreaches⟩
  · rintro ⟨selector, hselector, hd, hreaches⟩
    exact ⟨hd, selector, hselector, hreaches⟩

/-- **Selector lists.**  Where every comma of a selector separates two alternatives, none stands in
a placeholder, the blanks at the ends of its parts stand between tokens, and no part stands for the
element itself, a field records no warning about its selector and takes its values from exactly the
elements that the resolved selector selects. -/
theorem Extractor.values_selectorList {parts : FieldParts} (hselector : parts.selector = some s)
    (h : CommaSeparated c s selectors) (hself : ∀ part ∈ selectorParts s, resolve c part ≠ itself)
    (map : Option ValueMap) (e : Element) :
    ∃ es : List Element, (Selection.ofParts parts map).elements c e = pure es ∧
      (Extractor.ofDefinition (.parts parts map)).values c e =
        (es.mapM ((Selection.ofParts parts map).value c) : Recording (List Json)) ∧
      ∀ d, d ∈ es ↔ d ∈ e.select selectors := by
  have hparts : (Selection.ofParts parts map).selectors = selectorParts s := by
    rw [Selection.ofParts, hselector]
    rfl
  have hne : (selectorParts s).isEmpty = false := by
    have hlength := h.forall₂_parts.length_eq.trans h.count
    cases hempty : selectorParts s with
    | nil => rw [hempty] at hlength; cases hlength
    | cons => rfl
  have helements : (Selection.ofParts parts map).elements c e =
      pure (selectors.map fun selector => e.select [selector]).flatten := by
    rw [Selection.elements, hparts, hne, if_neg Bool.false_ne_true,
      mapM_partElements hself h.forall₂_parts, pure_bind]
  refine ⟨_, helements, ?_, fun d => ?_⟩
  · change (Selection.ofParts parts map).values c e = _
    rw [Selection.values, helements, pure_bind]
  · rw [mem_select, List.mem_flatten]
    simp only [List.mem_map, exists_exists_and_eq_and]

/-- A list whose second alternative has a placeholder and a combinator. -/
theorem Extractor.values_selectorList_twoAlternatives :
    let c : Context := { lineage := [0], vars := [("tag", .string "b")] }
    let e : Element := ⟨"div", [], [.element "p" [] [.text "x"]], []⟩
    let selectors : SelectorList :=
      [.compound [.tag "p"], .related (.compound [.tag "b", .className "k"]) .child [.any]]
    CommaSeparated c "p , :tag:.k > *" selectors ∧
      ∃ es : List Element, (Selection.ofParts ⟨some "p , :tag:.k > *", none⟩ none).elements c e =
        pure es ∧
      (Extractor.ofDefinition (.parts ⟨some "p , :tag:.k > *", none⟩ none)).values c e =
        (es.mapM ((Selection.ofParts ⟨some "p , :tag:.k > *", none⟩ none).value c) :
          Recording (List Json)) ∧
      ∀ d, d ∈ es ↔ d ∈ e.select selectors := by
  intro c e selectors
  have htoken : Placeholder.IsToken ⟨"tag", none⟩ :=
    ⟨rfl, List.all_eq_true.1 rfl, nofun⟩
  have hvalue : resolveSegment c (.placeholder ⟨"tag", none⟩) = ['b'] := by
    have hpath : PathStep.ofPath "tag" = [.key "tag"] := by cbv
    rw [resolveSegment, Context.find?, hpath]
    rfl
  have hresolve (u v : Text) (hu : ':' ∉ u) (hv : ':' ∉ v) :
      resolve c (u ++ (Placeholder.text ⟨"tag", none⟩ ++ v)) = u ++ 'b' :: v := by
    rw [resolve_append_of_notMem hu, resolve_text_append htoken, hvalue, resolve_of_notMem c hv]
    rfl
  have hwhole : resolve c "p , :tag:.k > *" = "p , b.k > *".toList :=
    hresolve "p , " ".k > *" (by decide) (by decide)
  have hpiece : resolve c " :tag:.k > *" = " b.k > *".toList :=
    hresolve " " ".k > *" (by decide) (by decide)
  have hpart : resolve c ":tag:.k > *" = "b.k > *".toList :=
    hresolve [] ".k > *" (by decide) (by decide)
  have htrees : trees "p , b.k > *".toList = [.leaf (.ident "p"), .leaf .space, .leaf .comma,
      .leaf .space, .leaf (.ident "b"), .leaf (.delim '.'), .leaf (.ident "k"), .leaf .space,
      .leaf (.delim '>'), .leaf .space, .leaf (.delim '*')] := by cbv
  have h : CommaSeparated c "p , :tag:.k > *" selectors := by
    refine ⟨?_, ?_, rfl, ?_⟩
    · rw [hwhole, SelectorList.read, htrees]
      rfl
    · intro p hp
      have hsegments : segments "p , :tag:.k > *" = ("p , ".toList.map .literal) ++
        .placeholder ⟨"tag", none⟩ :: (".k > *".toList.map .literal) := by cbv
      rw [hsegments] at hp
      obtain rfl : p = ⟨"tag", none⟩ := by simpa using hp
      rw [hvalue]
      decide
    · have hpieces : Text.pieces ',' "p , :tag:.k > *" = ["p ", " :tag:.k > *"] := rfl
      rw [hpieces]
      refine List.forall_mem_cons.2 ⟨⟨0, 1, ?_⟩, List.forall_mem_singleton.2 ⟨1, 0, ?_⟩⟩
      · have htrim : Text.trim "p " = "p".toList := rfl
        rw [htrim, resolve_of_notMem c (by decide), resolve_of_notMem c (by decide)]
        cbv
      · have htrim : Text.trim " :tag:.k > *" = ":tag:.k > *".toList := rfl
        rw [htrim, hpiece, hpart]
        cbv
  have hself : ∀ part ∈ selectorParts "p , :tag:.k > *", resolve c part ≠ itself := by
    have hparts : selectorParts "p , :tag:.k > *" = ["p", ":tag:.k > *"] := rfl
    rw [hparts]
    refine List.forall_mem_cons.2 ⟨?_, List.forall_mem_singleton.2 ?_⟩
    · rw [resolve_of_notMem c (by decide)]
      decide
    · rw [hpart]
      decide
  exact ⟨h, Extractor.values_selectorList rfl h hself none e⟩

/-- A comma inside brackets separates two parts as well, and the second one is malformed. -/
theorem Extractor.values_commaInBrackets :
    let e : Element := ⟨"div", [], [.element "p" [("class", "b")] [.text "x"]], []⟩
    (∃ selectors, SelectorList.read (resolve { lineage := [0] } "p:is(.a,.b)") = .ok selectors ∧
      (e.select selectors).map Element.text = ["x"]) ∧
    ∀ wording : Text → SelectorFault → Text,
      (Extractor.ofDefinition (.parts ⟨some "p:is(.a,.b)", none⟩ none)).values
          { lineage := [0], wording } e [[]] =
        (.ok [], [[⟨malformedSelectorCode, "Invalid CSS selector: .b) - ".toList ++
          wording ".b)" (.unexpected (.closing .round)), []⟩]]) := by
  intro e
  have hresolve : resolve { lineage := [0] } "p:is(.a,.b)" = "p:is(.a,.b)".toList := by cbv
  have htrees : trees "p:is(.a,.b)".toList = [.leaf (.ident "p"), .leaf .colon,
      .block (.function "is") [.leaf (.delim '.'), .leaf (.ident "a"), .leaf .comma,
        .leaf (.delim '.'), .leaf (.ident "b")]] := by cbv
  have hread : SelectorList.read "p:is(.a,.b)".toList = .ok [.compound [.tag "p",
      .oneOf [.compound [.className "a"], .compound [.className "b"]]]] := by
    rw [SelectorList.read, htrees]
    rfl
  refine ⟨⟨_, hresolve ▸ hread, rfl⟩, fun wording => ?_⟩
  let c : Context := { lineage := [0], wording }
  have hresolve₁ : resolve c "p:is(.a" = "p:is(.a".toList := by cbv
  have htrees₁ : trees "p:is(.a".toList = [.leaf (.ident "p"), .leaf .colon,
      .block (.function "is") [.leaf (.delim '.'), .leaf (.ident "a")]] := by cbv
  have hread₁ : SelectorList.read (resolve c "p:is(.a") = .ok [.compound [.tag "p",
      .oneOf [.compound [.className "a"]]]] := by
    rw [hresolve₁, SelectorList.read, htrees₁]
    rfl
  have hresolve₂ : resolve c ".b)" = ".b)".toList := by cbv
  have htrees₂ : trees ".b)".toList = [.leaf (.delim '.'), .leaf (.ident "b"),
      .leaf (.closing .round)] := by cbv
  have hread₂ : SelectorList.read (resolve c ".b)") = .error (.unexpected (.closing .round)) := by
    rw [hresolve₂, SelectorList.read, htrees₂]
    rfl
  have hparts : Selection.ofParts ⟨some "p:is(.a,.b)", none⟩ none =
    ⟨["p:is(.a", ".b)"], .text, none⟩ := rfl
  change (Selection.ofParts ⟨some "p:is(.a,.b)", none⟩ none).values c e [[]] = _
  rw [hparts, Selection.values, Selection.elements]
  have hfirst : Selection.partElements c e "p:is(.a" = pure [] :=
    partElements_of_read hread₁ (by rw [hresolve₁]; decide)
  have hsecond : Selection.partElements c e ".b)" = do
      c.warn malformedSelectorCode ("Invalid CSS selector: .b) - ".toList ++
        wording ".b)" (.unexpected (.closing .round)))
      return [] := by
    rw [Selection.partElements, readSelector, hread₂, hresolve₂]
    rfl
  simp only [List.mapM_cons, hfirst, hsecond]
  rfl

end Playbill
