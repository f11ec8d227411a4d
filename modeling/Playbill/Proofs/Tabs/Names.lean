import Mathlib.Data.List.ReduceOption
import Playbill.Proofs.Tabs.Visits
import Playbill.Proofs.Text.Basic

/-!
# Names of tabs

A tab is named by the identifier found at its button or, where none is found, by the index of the
button.  Both are texts, so that the index of one button may be the identifier of another; tabs of
one name are one tab.

* `foundId`, `tabName`: what is found at a button, and the name it gives to the tab.
* `card_tabNames`: how many different names there are.
* `KeepsTabs`: the tabs that are left of a page.
* `read_keepsTabs`: a caller that never fails gets these tabs.
-/

namespace Playbill.TabsReader

variable {σ : Type}

/-! ### Identifiers and names -/

/-- The identifier that a value stands for; null stands for none. -/
def idOfValue : Json → Option Text
  | .null => none
  | .string id => some id
  | value => some value.compact

/-- The identifier found at a button by the field for it, if it can be looked for. -/
def foundId (field : FieldDeclaration) (c : Context) (index : Nat) (button : Element) :
    Except SelectorFault (Option Text) :=
  ((Extractor.ofDeclaration (some field)).first (c.withIndex "tab" index) button []).1.map idOfValue

/-- The name of the tab of a button: the identifier found, else the index of the button. -/
def tabName (index : Nat) (id : Option Text) : Text :=
  id.getD (Text.ofNat index)

theorem tabId_eq_foundId {reader : TabsReader} {field : FieldDeclaration}
    (hfield : reader.layout.buttons.id = some field) (c : Context) (index : Nat)
    (button : Element) :
    reader.tabId c index button = (foundId field c index button).map (tabName index) := by
  unfold tabId identify foundId
  rw [hfield]
  simp only [Extraction.bind_apply]
  rcases (Extractor.ofDeclaration (some field)).first (c.withIndex "tab" index) button [] with
    ⟨fault | value, log⟩
  · rfl
  · cases value <;> rfl

theorem foundId_of_tabId {reader : TabsReader} {field : FieldDeclaration}
    (hfield : reader.layout.buttons.id = some field) {c : Context} {index : Nat} {button : Element}
    {name : Text} (h : reader.tabId c index button = .ok name) :
    ∃ id, foundId field c index button = .ok id ∧ tabName index id = name := by
  rw [tabId_eq_foundId hfield] at h
  cases hid : foundId field c index button with
  | error fault =>
    rw [hid] at h
    cases h
  | ok id =>
    rw [hid] at h
    exact ⟨id, rfl, Except.ok.inj h⟩

/-- The search for an identifier ends in nothing but a selector without a wording. -/
theorem hasWording_of_tabId {reader : TabsReader} {field : FieldDeclaration}
    (hfield : reader.layout.buttons.id = some field) {c : Context} {index : Nat} {button : Element}
    {fault : SelectorFault} (h : reader.tabId c index button = .error fault) :
    fault.hasWording = false := by
  rw [tabId_eq_foundId hfield] at h
  unfold foundId at h
  have hstops := Extractor.first_stopsUnworded (Extractor.ofDeclaration (some field))
    (c.withIndex "tab" index) button []
  cases hfirst : ((Extractor.ofDeclaration (some field)).first (c.withIndex "tab" index) button
      []).1 with
  | error other =>
    rw [hfirst] at h
    cases h
    exact hstops fault hfirst
  | ok value =>
    rw [hfirst] at h
    cases h

/-! ### Counting names -/

section Names

variable (ids : List (Option Text))

/-- The names of the tabs of all buttons, in order. -/
def tabNames : List Text :=
  ids.mapIdx tabName

/-- The identifiers that were found. -/
def foundIds : Finset Text :=
  ids.reduceOption.toFinset

/-- The buttons at which no identifier was found. -/
def unmarked : Finset Nat :=
  (Finset.range ids.length).filter fun index => ids[index]? = some none

/-- The buttons at which no identifier was found, and whose index was not found at another. -/
def unclaimed : Finset Nat :=
  (unmarked ids).filter fun index => Text.ofNat index ∉ foundIds ids

theorem mem_foundIds (id : Text) : id ∈ foundIds ids ↔ some id ∈ ids := by
  rw [foundIds, List.mem_toFinset, List.reduceOption_mem_iff]

theorem mem_unmarked (index : Nat) : index ∈ unmarked ids ↔ ids[index]? = some none := by
  rw [unmarked, Finset.mem_filter, Finset.mem_range, and_iff_right_iff_imp]
  intro h
  exact (List.getElem?_eq_some_iff.1 h).1

theorem ofNat_injective : Function.Injective Text.ofNat :=
  Function.LeftInverse.injective Text.natOfDigits_ofNat

theorem toFinset_tabNames :
    (tabNames ids).toFinset = foundIds ids ∪ (unmarked ids).image Text.ofNat := by
  ext name
  rw [List.mem_toFinset, tabNames, List.mem_mapIdx, Finset.mem_union, mem_foundIds,
    Finset.mem_image]
  constructor
  · rintro ⟨index, hindex, hname⟩
    cases hid : ids[index] with
    | some id =>
      rw [hid] at hname
      exact .inl (hname ▸ hid ▸ List.getElem_mem hindex)
    | none =>
      rw [hid] at hname
      exact .inr ⟨index, (mem_unmarked ids index).2 (List.getElem?_eq_some_iff.2 ⟨hindex, hid⟩),
        hname⟩
  · rintro (hfound | ⟨index, hunmarked, hname⟩)
    · obtain ⟨index, hindex, hid⟩ := List.getElem_of_mem hfound
      exact ⟨index, hindex, by rw [hid]; rfl⟩
    · obtain ⟨hindex, hid⟩ := List.getElem?_eq_some_iff.1 ((mem_unmarked ids index).1 hunmarked)
      exact ⟨index, hindex, by rw [hid]; exact hname⟩

/-- There is a name for every identifier that was found, and one more for every button without an
identifier whose index is not such an identifier. -/
theorem card_tabNames :
    (tabNames ids).toFinset.card = (foundIds ids).card + (unclaimed ids).card := by
  have hunion : (tabNames ids).toFinset = foundIds ids ∪ (unclaimed ids).image Text.ofNat := by
    rw [toFinset_tabNames]
    ext name
    simp only [Finset.mem_union, Finset.mem_image, unclaimed, Finset.mem_filter]
    by_cases hname : name ∈ foundIds ids
    · simp only [hname, true_or]
    · simp only [hname, false_or]
      exact ⟨fun ⟨index, hindex, h⟩ => ⟨index, ⟨hindex, h ▸ hname⟩, h⟩,
        fun ⟨index, hindex, h⟩ => ⟨index, hindex.1, h⟩⟩
  have hapart : Disjoint (foundIds ids) ((unclaimed ids).image Text.ofNat) := by
    refine Finset.disjoint_right.2 fun name hname => ?_
    obtain ⟨index, hindex, rfl⟩ := Finset.mem_image.1 hname
    exact (Finset.mem_filter.1 hindex).2
  rw [hunion, Finset.card_union_of_disjoint hapart,
    Finset.card_image_of_injective _ ofNat_injective]

end Names

/-! ### Runs of callers that never fail -/

/-- A caller that fails neither at a button nor at a card, whatever it has done before. -/
structure NeverFails (visitor : TabActions σ) : Prop where
  atButton (button : Element) (tab : Context) (s : σ) (log : WarningLog) (source : Text) :
    (visitor.atButton button tab s log).1.1 ≠ .error source
  atCard (card : Element) (tab : Context) (s : σ) (log : WarningLog) (source : Text) :
    (visitor.atCard card tab s log).1.1 ≠ .error source

/-- The tabs that are left of a page: one for each name, in the order in which the names first
come. -/
structure KeepsTabs (ids : List (Option Text)) (tabs : TabList) : Prop where
  names_eq : tabs.map Prod.fst = (tabNames ids).eraseDups
  length_eq : tabs.length = (foundIds ids).card + (unclaimed ids).card

theorem keepsTabs_of_names {ids : List (Option Text)} {tabs : TabList}
    (hnames : tabs.map Prod.fst = (tabNames ids).eraseDups) (hnodup : (tabs.map Prod.fst).Nodup) :
    KeepsTabs ids tabs where
  names_eq := hnames
  length_eq := by
    have htoFinset : (tabs.map Prod.fst).toFinset = (tabNames ids).toFinset := by
      ext name
      rw [List.mem_toFinset, List.mem_toFinset, hnames, List.mem_eraseDups]
    rw [← card_tabNames, ← htoFinset, List.toFinset_card_of_nodup hnodup, List.length_map]

/-- The tabs of visits to buttons are named by what was found at these. -/
theorem ButtonRun.names_eq {reader : TabsReader} {field : FieldDeclaration}
    (hfield : reader.layout.buttons.id = some field) {visitor : TabActions σ} {c : Context}
    {index : Nat} {world last : σ × WarningLog} {visits : List ButtonVisit}
    (hrun : ButtonRun reader visitor c index world visits last) :
    ∃ ids : List (Option Text),
      (visits.map ButtonVisit.button).mapIdx (fun i => foundId field c (index + i)) =
        ids.map .ok ∧
      visits.map ButtonVisit.id = ids.mapIdx fun i => tabName (index + i) := by
  induction hrun with
  | nil index world => exact ⟨[], rfl, rfl⟩
  | @cons index world next last log visit visits opens visited rest ih =>
    obtain ⟨id, hid, hname⟩ := foundId_of_tabId hfield opens.tabId_eq
    obtain ⟨ids, hids, hnames⟩ := ih
    have hshift {α : Type} (f : Nat → α) :
        (fun i => f (index + (i + 1))) = fun i => f (index + 1 + i) :=
      funext fun i => congrArg f (by omega)
    refine ⟨id :: ids, ?_, ?_⟩
    · rw [List.map_cons, List.mapIdx_cons, hshift (foundId field c), hids, Nat.add_zero, hid,
        List.map_cons]
    · rw [List.map_cons, List.mapIdx_cons, hshift tabName, hnames]
      exact congrArg (· :: _) hname.symm

theorem CardRun.keys_eq {visitor : TabActions σ} {container : Element} {cards : TabCards}
    {world last : σ × WarningLog} {tabs lefts : TabList}
    (hrun : CardRun visitor container cards world tabs lefts last) :
    lefts.map Prod.fst = tabs.map Prod.fst := by
  induction hrun with
  | nil => rfl
  | cons step rest ih => rw [List.map_cons, List.map_cons, ih]

/-- A run that a selector ends whose fault no message can name. -/
def EndsUnworded {α : Type} (result : Result σ α) : Prop :=
  ∃ fault log, fault.hasWording = false ∧ result = (.error fault, log)

theorem ButtonStop.endsUnworded {α : Type} {reader : TabsReader} {field : FieldDeclaration}
    (hfield : reader.layout.buttons.id = some field) {visitor : TabActions σ}
    (hvisitor : NeverFails visitor) {c : Context} {index : Nat} {button : Element}
    {world : σ × WarningLog} {result : Result σ α}
    (hstop : ButtonStop reader visitor c index button world result) :
    EndsUnworded result := by
  cases hstop with
  | failed opens visited => exact absurd (by rw [visited]) (hvisitor.atButton _ _ _ _ _)
  | fault opened tabId_eq => exact ⟨_, _, hasWording_of_tabId hfield tabId_eq, rfl⟩

theorem CardStop.endsUnworded {α : Type} {visitor : TabActions σ}
    (hvisitor : NeverFails visitor) {container : Element} {cards : TabCards}
    {tab : Text × Context} {world : σ × WarningLog} {result : Result σ α}
    (hstop : CardStop visitor container cards tab world result) :
    EndsUnworded result := by
  cases hstop with
  | failed card_eq visited => exact absurd (by rw [visited]) (hvisitor.atCard _ _ _ _ _)
  | fault card_eq =>
    refine ⟨_, _, ?_, rfl⟩
    unfold cardOf at card_eq
    split at card_eq
    · cases card_eq
    · split_ifs at card_eq with hwording
      cases card_eq
      exact Bool.eq_false_iff.2 hwording

/-- **A caller that never fails gets one tab for each identifier found, and one for each button
without an identifier whose index is not such an identifier.**  Only a selector of an identifier or
of a card whose fault no message can name ends a run earlier. -/
theorem read_keepsTabs {reader : TabsReader} {field : FieldDeclaration}
    (hfield : reader.layout.buttons.id = some field) {c : Context} {selectors : SelectorList}
    (hbuttons : SelectorList.read (Template.resolve c reader.layout.buttons.box) = .ok selectors)
    {visitor : TabActions σ} (hvisitor : NeverFails visitor) (container : Element) (s : σ)
    (log : WarningLog) :
    EndsUnworded (reader.read visitor c container s log) ∨
      ∃ ids tabs last,
        (container.select selectors).mapIdx (foundId field c) = ids.map .ok ∧
        (reader.read visitor c container s log).1 = .ok (.ok tabs, last) ∧ KeepsTabs ids tabs := by
  rw [read_of_selectors hbuttons]
  rcases visitButtons_run reader visitor c 0 (container.select selectors) [] (s, log) with
    ⟨visits, last, hvisits, hrun, hresult⟩ | ⟨visits, button, rest, last, -, -, hstop⟩
  · obtain ⟨ids, hids, hnames⟩ := hrun.names_eq hfield
    simp only [Nat.zero_add] at hids hnames
    rw [← hvisits] at hids
    have hlists := (listsTabs_collect visits).ids_eq
    have hnodup := Members.nodup_keys_collect (visits.map fun visit => (visit.id, visit.left))
    unfold Members.collect at hlists hnodup
    generalize List.foldl _ [] _ = tabs at hresult hlists hnodup
    have hkeeps {lefts : TabList} (hkeys : lefts.map Prod.fst = tabs.map Prod.fst) :
        KeepsTabs ids lefts :=
      keepsTabs_of_names (hkeys.trans (hlists.trans (congrArg _ hnames))) (hkeys ▸ hnodup)
    rw [hresult]
    cases reader.layout.cards with
    | none => exact .inr ⟨ids, tabs, last.1, hids, rfl, hkeeps rfl⟩
    | some cards =>
      simp only
      rcases visitCards_run visitor container cards (tabs.take (cardCount reader tabs)) last with
        ⟨lefts, reached, hdone, hall⟩ | ⟨before, tab, after, lefts, reached, -, -, hstop⟩
      · refine .inr ⟨ids, lefts ++ tabs.drop (cardCount reader tabs), reached.1, hids, ?_, ?_⟩
        · rw [hall]
          rfl
        · refine hkeeps ?_
          rw [List.map_append, hdone.keys_eq, ← List.map_append, List.take_append_drop]
      · obtain ⟨fault, log, hfault, hends⟩ := hstop.endsUnworded hvisitor
        rw [hends]
        exact .inl ⟨fault, log, hfault, rfl⟩
  · obtain ⟨fault, log, hfault, hends⟩ := hstop.endsUnworded hfield hvisitor
    rw [hends]
    exact .inl ⟨fault, log, hfault, rfl⟩

theorem passing_neverFails : NeverFails passing where
  atButton := by rintro button tab s log source ⟨⟩
  atCard := by rintro card tab s log source ⟨⟩

/-- A day that comes twice, and a button without one. -/
theorem read_keepsTabs_twice :
    dayTabs.layout.buttons.id = some (.shorthand "@day") ∧
      SelectorList.read (Template.resolve { lineage := [0] } dayTabs.layout.buttons.box) =
        .ok [.compound [.tag ['l', 'i']]] ∧
      NeverFails passing ∧
      (EndsUnworded
          (dayTabs.read passing { lineage := [0] } (dayList ["mon", "", "mon"]) () [[]]) ∨
        ∃ ids tabs last,
          ((dayList ["mon", "", "mon"]).select [.compound [.tag ['l', 'i']]]).mapIdx
              (foundId (.shorthand "@day") { lineage := [0] }) = ids.map .ok ∧
            (dayTabs.read passing { lineage := [0] } (dayList ["mon", "", "mon"]) () [[]]).1 =
              .ok (.ok tabs, last) ∧
            KeepsTabs ids tabs) :=
  ⟨rfl, read_dayButtons, passing_neverFails,
    read_keepsTabs rfl read_dayButtons passing_neverFails (dayList ["mon", "", "mon"]) () [[]]⟩

/-- Tabs that are identified by their days and have no cards. -/
def dayButtons : TabsReader :=
  ⟨⟨dayTabs.layout.buttons, none⟩, ⟨none⟩⟩

/-- The button of a day, with what stands around it. -/
def dayButton (day : Text) (index : Nat) (days : List Text) : Element :=
  ⟨['l', 'i'], [(['d', 'a', 'y'], day)], [], [⟨index, ['u', 'l'], [], (dayList days).children⟩]⟩

/-- A button without a day, and one whose day is the index of the other: they share one tab. -/
theorem read_claimedIndex :
    dayButtons.layout.buttons.id = some (.shorthand "@day") ∧
      SelectorList.read (Template.resolve { lineage := [0] } dayButtons.layout.buttons.box) =
        .ok [.compound [.tag ['l', 'i']]] ∧
      NeverFails passing ∧
      ((dayList ["", "0"]).select [.compound [.tag ['l', 'i']]]).mapIdx
          (foundId (.shorthand "@day") { lineage := [0] }) = [.ok none, .ok (some ['0'])] ∧
      ∃ tabs,
        (dayButtons.read passing { lineage := [0] } (dayList ["", "0"]) () [[]]).1 =
          .ok (.ok tabs, ()) ∧
        tabs.length = 1 ∧
        (foundIds [none, some ['0']]).card + (unmarked [none, some ['0']]).card = 2 := by
  have hselect : (dayList ["", "0"]).select [.compound [.tag ['l', 'i']]] =
      [dayButton [] 0 ["", "0"], dayButton ['0'] 1 ["", "0"]] := by
    cbv
  refine ⟨rfl, read_dayButtons, passing_neverFails, ?_, ?_⟩
  · rw [hselect]
    rfl
  · have hbuttons : SelectorList.read
        (Template.resolve { lineage := [0] } dayButtons.layout.buttons.box) =
          .ok [.compound [.tag ['l', 'i']]] :=
      read_dayButtons
    rw [read_of_selectors hbuttons, hselect]
    exact ⟨_, rfl, rfl, rfl⟩

end Playbill.TabsReader
