import Playbill.Proofs.Context.Growth
import Playbill.Proofs.Field.Outcome
import Playbill.Proofs.Template.Segments

/-!
# Parts of a selector one after another

Each part of a selector leads to elements of its own, and the values of a field are those of its
parts one after another.

* `Extraction.HasOutcome`, `Extraction.OnlyGrows`: what an extraction gives whatever was recorded
  before, and that it does no more to the log than to let it grow.
* `Selection.reached`: the elements that a selection leads to; `Selection.foundBy`: those of a
  selector; `Selection.valueOf`: their values.
* `Selection.values_hasOutcome`: the values of a field are those of the elements;
  `Selection.values_onlyGrows`, `Selection.holds_of_values`: what it leaves in the log.
* `Extractor.values_concatenate`: two selectors with a comma between them.
* `Extractor.values_unwordedPart`: a part whose fault has no wording takes the others along.
-/

namespace Playbill

namespace Extraction

variable {α β : Type}

/-! ### Outcomes -/

/-- An extraction has an outcome, whatever warnings were recorded before. -/
def HasOutcome (x : Extraction α) (outcome : Except SelectorFault α) : Prop :=
  ∀ log, (x log).1 = outcome

theorem HasOutcome.pure (a : α) : HasOutcome (Pure.pure a) (.ok a) :=
  fun _ => rfl

theorem HasOutcome.recording {x : Recording α} {a : α} (h : ∀ log, (x log).1 = a) :
    HasOutcome (liftM x) (.ok a) :=
  fun log => congrArg Except.ok (h log)

theorem HasOutcome.bind {x : Extraction α} {f : α → Extraction β} {outcome : Except SelectorFault α}
    {next : α → Except SelectorFault β} (h : HasOutcome x outcome)
    (hnext : ∀ a, HasOutcome (f a) (next a)) : HasOutcome (x >>= f) (outcome >>= next) := by
  intro log
  have hfirst := h log
  rw [bind_apply]
  cases hx : x log with
  | mk first after =>
    rw [hx] at hfirst
    subst hfirst
    cases first with
    | ok a => exact hnext a after
    | error fault => rfl

theorem HasOutcome.mapM {f : α → Extraction β} {g : α → Except SelectorFault β} (items : List α)
    (h : ∀ a ∈ items, HasOutcome (f a) (g a)) : HasOutcome (items.mapM f) (items.mapM g) := by
  induction items with
  | nil => exact .pure []
  | cons a items ih =>
    rw [List.forall_mem_cons] at h
    rw [List.mapM_cons, List.mapM_cons]
    exact h.1.bind fun b => (ih h.2).bind fun bs => .pure (b :: bs)

/-! ### Logs -/

/-- An extraction lets the log grow and does nothing else to it. -/
def OnlyGrows (x : Extraction α) : Prop :=
  ∀ log, WarningLog.Grows log (x log).2

theorem OnlyGrows.pure (a : α) : OnlyGrows (Pure.pure a) :=
  fun _ => .refl

theorem OnlyGrows.recording {x : Recording α} (h : ∀ log, WarningLog.Grows log (x log).2) :
    OnlyGrows (liftM x) :=
  h

theorem OnlyGrows.bind {x : Extraction α} {f : α → Extraction β} (h : OnlyGrows x)
    (hnext : ∀ a, OnlyGrows (f a)) : OnlyGrows (x >>= f) := by
  intro log
  have hfirst := h log
  rw [bind_apply]
  cases hx : x log with
  | mk first after =>
    rw [hx] at hfirst
    cases first with
    | ok a => exact hfirst.trans (hnext a after)
    | error fault => exact hfirst

theorem OnlyGrows.mapM {f : α → Extraction β} (items : List α) (h : ∀ a, OnlyGrows (f a)) :
    OnlyGrows (items.mapM f) := by
  induction items with
  | nil => exact .pure []
  | cons a items ih =>
    rw [List.mapM_cons]
    exact (h a).bind fun b => ih.bind fun bs => .pure (b :: bs)

end Extraction

open Css Extraction SelectorReader

theorem readSelector_onlyGrows (c : Context) (selector : Text) :
    OnlyGrows (readSelector c selector) := by
  unfold readSelector
  cases SelectorList.read selector with
  | ok selectors => exact .pure (some selectors)
  | error fault =>
    by_cases hwording : fault.hasWording
    · simp only [hwording, if_true]
      exact fun log => .recorded log c.lineage _
    · simp only [hwording]
      exact fun log => .refl

namespace Selection

variable {c : Context} {e : Element}

/-! ### Elements -/

/-- The elements that one part of a selector leads to: the element itself, those that the selector
selects, or none if it is malformed and a warning can say why. -/
def found (c : Context) (e : Element) (part : Text) : Except SelectorFault (List Element) :=
  if Template.resolve c part = itself then .ok [e]
  else
    match SelectorList.read (Template.resolve c part) with
    | .ok selectors => .ok (e.select selectors)
    | .error fault => if fault.hasWording then .ok [] else .error fault

/-- The elements that the parts of a selector lead to, one part after another. -/
def foundBy (c : Context) (e : Element) (selector : Text) : Except SelectorFault (List Element) :=
  do return (← (selectorParts selector).mapM (found c e)).flatten

theorem partElements_hasOutcome (part : Text) :
    HasOutcome (partElements c e part) (found c e part) := by
  intro log
  unfold partElements found
  by_cases hself : Template.resolve c part = itself
  · simp only [hself, beq_self_eq_true, if_true]
    rfl
  · simp only [hself, beq_eq_false_iff_ne.2 hself, Bool.false_eq_true, if_false, readSelector]
    cases SelectorList.read (Template.resolve c part) with
    | ok selectors => rfl
    | error fault =>
      by_cases hwording : fault.hasWording
      · simp only [hwording, if_true]
        rfl
      · simp only [hwording]
        rfl

theorem partElements_onlyGrows (part : Text) : OnlyGrows (partElements c e part) := by
  unfold partElements
  by_cases hself : Template.resolve c part == itself
  · simp only [hself, if_true]
    exact .pure [e]
  · simp only [hself]
    exact (readSelector_onlyGrows c _).bind fun selectors => by
      cases selectors <;> exact .pure _

/-- The parts of two selectors with a comma between them. -/
theorem selectorParts_append (first second : Text) :
    selectorParts (first ++ ',' :: second) = selectorParts first ++ selectorParts second := by
  rw [selectorParts, Text.pieces_append_cons, List.map_append, List.filter_append]
  rfl

theorem foundBy_append (first second : Text) :
    foundBy c e (first ++ ',' :: second) =
      do return (← foundBy c e first) ++ (← foundBy c e second) := by
  unfold foundBy
  rw [selectorParts_append, List.mapM_append]
  cases (selectorParts first).mapM (found c e) with
  | error fault => rfl
  | ok es =>
    cases (selectorParts second).mapM (found c e) with
    | error fault => rfl
    | ok ds => exact congrArg Except.ok List.flatten_append

/-- The elements that a selection leads to; without a selector that is the element itself. -/
def reached (s : Selection) (c : Context) (e : Element) : Except SelectorFault (List Element) :=
  if s.selectors = [] then .ok [e]
  else do return (← s.selectors.mapM (found c e)).flatten

theorem elements_reached (s : Selection) : HasOutcome (s.elements c e) (s.reached c e) := by
  unfold elements reached
  simp only [List.isEmpty_iff]
  split_ifs
  · exact .pure [e]
  · exact (HasOutcome.mapM _ fun part _ => partElements_hasOutcome part).bind fun found => .pure _

theorem elements_hasOutcome {s : Selection} {selector : Text}
    (hselectors : s.selectors = selectorParts selector) (hne : selectorParts selector ≠ []) :
    HasOutcome (s.elements c e) (foundBy c e selector) := by
  have hreached := elements_reached s (c := c) (e := e)
  rwa [reached, hselectors, if_neg hne] at hreached

theorem elements_onlyGrows (s : Selection) : OnlyGrows (s.elements c e) := by
  unfold elements
  split_ifs
  · exact .pure [e]
  · exact (OnlyGrows.mapM _ partElements_onlyGrows).bind fun found => .pure _

/-- A part of a selector is malformed. -/
def IsMalformed (c : Context) (part : Text) : Prop :=
  Template.resolve c part ≠ itself ∧
    ∃ fault, SelectorList.read (Template.resolve c part) = .error fault

/-- If a malformed part ends nothing, every scope of the context holds a warning about it. -/
theorem holds_of_isMalformed {part : Text} (h : IsMalformed c part) {log after : WarningLog}
    (hscopes : ∀ scope ∈ c.lineage, scope < log.length) {found : List Element}
    (hrun : partElements c e part log = (.ok found, after)) :
    ∀ scope ∈ c.lineage, after.holds scope malformedSelectorCode := by
  obtain ⟨hself, fault, hread⟩ := h
  unfold partElements at hrun
  simp only [beq_eq_false_iff_ne.2 hself, Bool.false_eq_true, if_false, readSelector, hread] at hrun
  by_cases hwording : fault.hasWording
  · simp only [hwording, if_true] at hrun
    cases hrun
    exact fun scope hmem => WarningLog.holds_record hscopes _ hmem
  · simp only [hwording] at hrun
    cases hrun

theorem holds_of_mem_isMalformed {parts : List Text} {part : Text} (hmem : part ∈ parts)
    (h : IsMalformed c part) {log after : WarningLog}
    (hscopes : ∀ scope ∈ c.lineage, scope < log.length) {found : List (List Element)}
    (hrun : parts.mapM (partElements c e) log = (.ok found, after)) :
    ∀ scope ∈ c.lineage, after.holds scope malformedSelectorCode := by
  induction parts generalizing log found with
  | nil => cases hmem
  | cons first parts ih =>
    rw [List.mapM_cons, bind_apply] at hrun
    have hgrows := partElements_onlyGrows (c := c) (e := e) first log
    cases hfirst : partElements c e first log with
    | mk outcome middle =>
      rw [hfirst] at hrun hgrows
      cases outcome with
      | error fault => cases hrun
      | ok es =>
        simp only [bind_apply] at hrun
        have hlater := OnlyGrows.mapM parts (partElements_onlyGrows (c := c) (e := e)) middle
        cases hrest : parts.mapM (partElements c e) middle with
        | mk outcome last =>
          rw [hrest] at hrun hlater
          cases outcome with
          | error fault => cases hrun
          | ok later =>
            cases hrun
            rcases List.mem_cons.1 hmem with rfl | hmem
            · exact fun scope hscope =>
                hlater.holds (holds_of_isMalformed h hscopes hfirst scope hscope)
            · exact ih hmem (fun scope hscope => (hscopes scope hscope).trans_le hgrows.length_le)
                hrest

end Selection

/-! ### Values -/

/-- What a recording gives does not depend on the warnings before it. -/
def Recording.IsBlind {α : Type} (x : Recording α) : Prop :=
  ∀ log log', (x log).1 = (x log').1

theorem Recording.mapM_apply {α β : Type} {f : α → Recording β} {g : α → β}
    (h : ∀ a log, (f a log).1 = g a) (items : List α) (log : WarningLog) :
    ((items.mapM f : Recording (List β)) log).1 = items.map g := by
  induction items generalizing log with
  | nil => rfl
  | cons a items ih =>
    rw [List.mapM_cons, List.map_cons, ← h a log, ← ih (f a log).2]
    rfl

/-- A mapping that does not look at the warnings; all it may do about them is to open scopes and to
record more. -/
structure ValueMap.IsOblivious (f : ValueMap) : Prop where
  value_eq : ∀ raw c log log', (f raw c log).1 = (f raw c log').1
  grows : ∀ raw c log, WarningLog.Grows log (f raw c log).2

namespace Selection

variable {c : Context} {e : Element} {s : Selection}

/-- The value of an element; a missing attribute gives null. -/
def valueOf (s : Selection) (c : Context) (e : Element) : Json :=
  match s.target.take? e with
  | none => .null
  | some raw => Json.normalForm
    (match s.map with
    | some f => (f raw c []).1
    | none => .string (Text.trim raw))

theorem value_apply (hmap : ∀ f ∈ s.map, ∀ raw c, (f raw c).IsBlind) (e : Element)
    (log : WarningLog) : (s.value c e log).1 = s.valueOf c e := by
  unfold value valueOf
  cases s.target.take? e with
  | none => rfl
  | some raw =>
    cases hf : s.map with
    | none => rfl
    | some f => exact congrArg Json.normalForm (hmap f hf raw c log [])

variable (hmap : ∀ f ∈ s.map, f.IsOblivious)

include hmap

theorem value_grows (log : WarningLog) : WarningLog.Grows log (s.value c e log).2 := by
  unfold value
  cases s.target.take? e with
  | none => exact .refl
  | some raw =>
    cases hf : s.map with
    | none => exact .refl
    | some f => exact (hmap f hf).grows raw c log

theorem mapM_value_apply (es : List Element) (log : WarningLog) :
    ((es.mapM (s.value c) : Recording (List Json)) log).1 = es.map (s.valueOf c) ∧
      WarningLog.Grows log ((es.mapM (s.value c) : Recording (List Json)) log).2 := by
  refine ⟨Recording.mapM_apply (value_apply fun f hf => (hmap f hf).value_eq) es log, ?_⟩
  induction es generalizing log with
  | nil => exact .refl
  | cons d es ih =>
    rw [List.mapM_cons]
    exact (value_grows hmap log).trans (ih (s.value c d log).2)

theorem values_hasOutcome {selector : Text} (hselectors : s.selectors = selectorParts selector)
    (hne : selectorParts selector ≠ []) :
    HasOutcome (s.values c e) (do return (← foundBy c e selector).map (s.valueOf c)) :=
  (elements_hasOutcome hselectors hne).bind fun es =>
    .recording fun log => (mapM_value_apply hmap es log).1

theorem values_onlyGrows : OnlyGrows (s.values c e) :=
  (elements_onlyGrows s).bind fun es => .recording fun log => (mapM_value_apply hmap es log).2

/-- If a run finishes, every scope of the context holds a warning about a malformed part. -/
theorem holds_of_values {selector part : Text} (hselectors : s.selectors = selectorParts selector)
    (hmem : part ∈ selectorParts selector) (h : IsMalformed c part) {log after : WarningLog}
    (hscopes : ∀ scope ∈ c.lineage, scope < log.length) {values : List Json}
    (hrun : s.values c e log = (.ok values, after)) :
    ∀ scope ∈ c.lineage, after.holds scope malformedSelectorCode := by
  unfold Selection.values elements at hrun
  rw [hselectors, if_neg (mt List.isEmpty_iff.1 (List.ne_nil_of_mem hmem)), bind_apply,
    bind_apply] at hrun
  cases hparts : (selectorParts selector).mapM (partElements c e) log with
  | mk outcome middle =>
    rw [hparts] at hrun
    cases outcome with
    | error fault => cases hrun
    | ok found =>
      have hgrows := (mapM_value_apply hmap (c := c) found.flatten middle).2
      cases hrun
      exact fun scope hscope =>
        hgrows.holds (holds_of_mem_isMalformed hmem h hscopes hparts scope hscope)

end Selection

/-- A field with a selector. -/
def Extractor.selecting (attrName : Option Text) (map : Option ValueMap) (selector : Text) :
    Extractor :=
  .ofDefinition (.parts ⟨some selector, attrName⟩ map)

theorem Extractor.values_selecting (attrName : Option Text) (map : Option ValueMap)
    (selector : Text) (c : Context) (e : Element) :
    (selecting attrName map selector).values c e =
      (Selection.ofParts ⟨some selector, attrName⟩ map).values c e :=
  rfl

/-- **A comma concatenates.**  What a field gives for two selectors with a comma between them is what
it gives for the first and then for the second.  It is one value for each element that the parts lead
to, whatever the attribute and the mapping are, and a malformed part leads to none but leaves one
warning in every scope of the context, unless its fault has no wording. -/
theorem Extractor.values_concatenate {first second : Text} (hfirst : selectorParts first ≠ [])
    (hsecond : selectorParts second ≠ []) (attrName : Option Text) {map : Option ValueMap}
    (hmap : ∀ f ∈ map, f.IsOblivious) (c : Context) (e : Element) {log : WarningLog}
    (hlog : WarningLog.Grows [] log) (hscopes : ∀ scope ∈ c.lineage, scope < log.length) :
    (∀ log₁ log₂, ((selecting attrName map (first ++ ',' :: second)).values c e log).1 = (do
      let values ← ((selecting attrName map first).values c e log₁).1
      return values ++ (← ((selecting attrName map second).values c e log₂).1))) ∧
    ∀ selector, selectorParts selector ≠ [] →
      ((selecting attrName map selector).values c e log).1 =
        (do
          let es ← Selection.foundBy c e selector
          return es.map ((Selection.ofParts ⟨some selector, attrName⟩ map).valueOf c)) ∧
      ∀ values after, (selecting attrName map selector).values c e log = (.ok values, after) →
        (∀ part ∈ selectorParts selector, Selection.IsMalformed c part → ∀ scope ∈ c.lineage,
          (after.of scope).countP (·.code == malformedSelectorCode) = 1) ∧
        ∀ scope, (after.of scope).countP (·.code == malformedSelectorCode) ≤ 1 := by
  have houtcome (selector : Text) (hne : selectorParts selector ≠ []) :=
    Selection.values_hasOutcome (s := Selection.ofParts ⟨some selector, attrName⟩ map) hmap
      (c := c) (e := e) rfl hne
  have hboth : selectorParts (first ++ ',' :: second) ≠ [] := by
    rw [Selection.selectorParts_append]
    exact List.append_ne_nil_of_left_ne_nil hfirst _
  simp only [values_selecting]
  refine ⟨fun log₁ log₂ => ?_, fun selector hne => ⟨houtcome selector hne log, ?_⟩⟩
  · rw [houtcome _ hboth log, houtcome first hfirst log₁, houtcome second hsecond log₂,
      Selection.foundBy_append]
    cases Selection.foundBy c e first with
    | error fault => rfl
    | ok es =>
      cases Selection.foundBy c e second with
      | error fault => rfl
      | ok ds => exact congrArg Except.ok List.map_append
  · intro values after hrun
    have hgrows := Selection.values_onlyGrows
      (s := Selection.ofParts ⟨some selector, attrName⟩ map) hmap (c := c) (e := e) log
    rw [hrun] at hgrows
    have hafter : WarningLog.Grows [] after := hlog.trans hgrows
    refine ⟨fun part hpart hmalformed scope hscope => ?_, fun scope =>
      WarningLog.countP_code_le_one hafter scope _⟩
    exact WarningLog.countP_code_eq_one hafter
      (Selection.holds_of_values hmap rfl hpart hmalformed hscopes hrun scope hscope)

/-! ### Faults with and without a wording -/

/-- A box with one bold word. -/
def boldBox : Element :=
  ⟨"div", [], [.element "b" [] [.text "y"]], []⟩

theorem Selection.found_bold (c : Context) :
    found c boldBox "b" = .ok (boldBox.select [.compound [.tag "b"]]) := by
  have htrees : trees ("b" : Text) = [.leaf (.ident "b")] := by cbv
  have hread : SelectorList.read "b" = .ok [.compound [.tag "b"]] := by
    rw [SelectorList.read, htrees]
    rfl
  rw [found, Template.resolve_of_notMem c (by decide), if_neg (by decide), hread]

/-- A part that stands for the element itself, a malformed part and a third one. -/
theorem Extractor.values_concatenate_malformedPart :
    let c : Context := { lineage := [0] }
    selectorParts "_self,.b)" ≠ [] ∧ selectorParts "b" ≠ [] ∧ WarningLog.Grows [] [[]] ∧
      (∀ scope ∈ c.lineage, scope < [([] : List Warning)].length) ∧
      ((selecting none none "_self,.b),b").values c boldBox [[]]).1 =
        .ok [.string "y", .string "y"] ∧
      ∀ values after, (selecting none none "_self,.b),b").values c boldBox [[]] =
        (.ok values, after) → (after.of 0).countP (·.code == malformedSelectorCode) = 1 := by
  intro c
  have hparts : selectorParts "_self,.b),b" = (["_self", ".b)", "b"] : List Text) := rfl
  have htrees : trees ".b)".toList = [.leaf (.delim '.'), .leaf (.ident "b"),
      .leaf (.closing .round)] := by cbv
  have hread : SelectorList.read (Template.resolve c ".b)") =
      .error (.unexpected (.closing .round)) := by
    rw [Template.resolve_of_notMem c (by decide), SelectorList.read, htrees]
    rfl
  have hmalformed : Selection.IsMalformed c ".b)" :=
    ⟨by rw [Template.resolve_of_notMem c (by decide)]; decide, _, hread⟩
  have hitself : Selection.found c boldBox "_self" = .ok [boldBox] := by
    rw [Selection.found, Template.resolve_of_notMem c (by decide)]
    rfl
  have hnone : Selection.found c boldBox ".b)" = .ok [] := by
    rw [Selection.found, if_neg hmalformed.1, hread]
    rfl
  have hfound : Selection.foundBy c boldBox "_self,.b),b" =
      .ok (boldBox :: boldBox.select [.compound [.tag "b"]]) := by
    rw [Selection.foundBy, hparts]
    simp only [List.mapM_cons, List.mapM_nil, hitself, hnone, Selection.found_bold]
    rfl
  have hfirst : selectorParts "_self,.b)" ≠ [] := List.cons_ne_nil _ _
  have hsecond : selectorParts "b" ≠ [] := List.cons_ne_nil _ _
  have hlog : WarningLog.Grows [] [[]] := .single (.opened [])
  have hscopes : ∀ scope ∈ c.lineage, scope < [([] : List Warning)].length := by decide
  have hmap : ∀ f ∈ (none : Option ValueMap), f.IsOblivious :=
    fun f hf => (Option.not_mem_none f hf).elim
  obtain ⟨-, hvalues⟩ := values_concatenate hfirst hsecond none hmap c boldBox hlog hscopes
  obtain ⟨houtcome, hwarnings⟩ := hvalues "_self,.b),b" (hparts ▸ List.cons_ne_nil _ _)
  refine ⟨hfirst, hsecond, hlog, hscopes, ?_, fun values after hrun => ?_⟩
  · rw [houtcome, hfound]
    rfl
  · exact (hwarnings values after hrun).1 ".b)" (hparts ▸ by simp) hmalformed 0 (by simp [c])

/-- A part whose fault has no wording suppresses the values of the part after it. -/
theorem Extractor.values_unwordedPart :
    let c : Context := { lineage := [0] }
    ((selecting none none "b").values c boldBox [[]]).1 = .ok [.string "y"] ∧
      Selection.IsMalformed c "p!" ∧
      ((selecting none none "p!,b").values c boldBox [[]]).1 =
        .error (.unexpected (.delim '!')) := by
  intro c
  have houtcome (selector : Text) (hne : selectorParts selector ≠ []) :=
    Selection.values_hasOutcome (s := Selection.ofParts ⟨some selector, none⟩ none)
      (fun f hf => (Option.not_mem_none f hf).elim) (c := c) (e := boldBox) rfl hne
  have htrees : trees "p!".toList = [.leaf (.ident "p"), .leaf (.delim '!')] := by cbv
  have hread : SelectorList.read (Template.resolve c "p!") =
      .error (.unexpected (.delim '!')) := by
    rw [Template.resolve_of_notMem c (by decide), SelectorList.read, htrees]
    rfl
  have hself : Template.resolve c "p!" ≠ itself := by
    rw [Template.resolve_of_notMem c (by decide)]
    decide
  have hfault : Selection.found c boldBox "p!" = .error (.unexpected (.delim '!')) := by
    rw [Selection.found, if_neg hself, hread]
    rfl
  refine ⟨?_, ⟨hself, _, hread⟩, ?_⟩
  · rw [values_selecting, houtcome "b" (List.cons_ne_nil _ _) [[]], Selection.foundBy,
      show selectorParts "b" = (["b"] : List Text) from rfl]
    simp only [List.mapM_cons, List.mapM_nil, Selection.found_bold]
    rfl
  · rw [values_selecting, houtcome "p!,b" (List.cons_ne_nil _ _) [[]], Selection.foundBy,
      show selectorParts "p!,b" = (["p!", "b"] : List Text) from rfl]
    simp only [List.mapM_cons, hfault]
    rfl

end Playbill
