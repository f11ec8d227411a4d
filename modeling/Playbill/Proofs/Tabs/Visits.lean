import Playbill.Proofs.Field.Outcome
import Playbill.Proofs.Json.Members
import Playbill.Tabs.Basic

/-!
# Visits to tabs

Which buttons and cards are visited, in which contexts, and what becomes of the run.

* `TabsReader.tabId`, `TabsReader.cardOf`: the identifier of the tab of a button, and its card.
* `TabsReader.ButtonRun`, `TabsReader.CardRun`: visits one after another, none of which failed.
* `TabsReader.ButtonStop`, `TabsReader.CardStop`: the visit that ends a run.
* `TabsReader.TabsRun`: a whole run.
* `TabsReader.read_tabsRun`: every run is of this shape.
-/

namespace Playbill.TabsReader

variable {σ : Type}

/-! ### Opening tabs -/

/-- The context of a visit to a button: a branch with a scope of its own that knows the index and
the identifier of the tab. -/
def tabContext (c : Context) (scope index : Nat) (id : Text) : Context :=
  (({ c with lineage := scope :: c.lineage }.withIndex "tab" index).withVar "tabId"
    (.string id)).enter ("tab:".toList ++ id)

/-- The identifier of the tab of a button, if it can be extracted. -/
def tabId (reader : TabsReader) (c : Context) (index : Nat) (button : Element) :
    Except SelectorFault Text :=
  (reader.identify (c.withIndex "tab" index) index button []).1

theorem index?_tabContext (c : Context) (scope index : Nat) (id : Text) :
    (tabContext c scope index id).index? "tab" = some index :=
  Members.find?_insert_self ..

theorem var?_tabContext (c : Context) (scope index : Nat) (id : Text) :
    (tabContext c scope index id).var? "tabId" = some (.string id) :=
  Members.find?_insert_self ..

theorem identify_sameOutcome (reader : TabsReader) (c : Context) (lineage : List Nat) (index : Nat)
    (button : Element) :
    Extraction.SameOutcome (reader.identify { c with lineage } index button)
      (reader.identify c index button) := by
  unfold identify
  cases reader.layout.buttons.id with
  | none => exact .pure _
  | some field =>
    refine (Extractor.first_sameOutcome field c lineage button).bind fun value => ?_
    cases value with
    | null => exact (Extraction.SameOutcome.warn _ _ _ _ _ _).bind fun _ => .pure _
    | _ => exact .pure _

/-- Neither the warnings so far nor the scope of the branch have a say in the identifier. -/
theorem openTab_outcome (reader : TabsReader) (c : Context) (index : Nat) (button : Element)
    (log : WarningLog) :
    (reader.openTab c index button log).1 =
      (reader.tabId c index button).map fun id => (id, tabContext c log.length index id) := by
  have hsame := identify_sameOutcome reader (c.withIndex "tab" index) (log.length :: c.lineage)
    index button (log ++ [[]]) []
  have hopen : reader.openTab c index button log =
      (reader.identify { c.withIndex "tab" index with lineage := log.length :: c.lineage } index
        button >>= fun id => pure (id, tabContext c log.length index id)) (log ++ [[]]) :=
    rfl
  rw [hopen, Extraction.bind_apply, tabId, ← hsame]
  cases reader.identify { c.withIndex "tab" index with lineage := log.length :: c.lineage } index
    button (log ++ [[]]) with
  | mk outcome after => cases outcome <;> rfl

/-- A tab is opened for a button: it gets its identifier, and a branch of the given context that is
marked with its index and its identifier. -/
structure Opens (reader : TabsReader) (c : Context) (index : Nat) (button : Element) (id : Text)
    (entry : Context) (log log' : WarningLog) : Prop where
  opened : reader.openTab c index button log = (.ok (id, entry), log')
  tabId_eq : reader.tabId c index button = .ok id
  entry_eq : entry = tabContext c log.length index id
  index_eq : entry.index? "tab" = some index
  var_eq : entry.var? "tabId" = some (.string id)
  frames_eq : entry.frames = c.frames ++ ["tab:".toList ++ id]

theorem tabId_of_fault {reader : TabsReader} {c : Context} {index : Nat} {button : Element}
    {fault : SelectorFault} {log log' : WarningLog}
    (h : reader.openTab c index button log = (.error fault, log')) :
    reader.tabId c index button = .error fault := by
  have houtcome := openTab_outcome reader c index button log
  rw [h] at houtcome
  cases hid : reader.tabId c index button with
  | error other =>
    rw [hid] at houtcome
    cases houtcome
    rfl
  | ok id =>
    rw [hid] at houtcome
    cases houtcome

theorem opens_of_openTab {reader : TabsReader} {c : Context} {index : Nat} {button : Element}
    {id : Text} {entry : Context} {log log' : WarningLog}
    (h : reader.openTab c index button log = (.ok (id, entry), log')) :
    Opens reader c index button id entry log log' := by
  have houtcome := openTab_outcome reader c index button log
  rw [h] at houtcome
  cases hid : reader.tabId c index button with
  | error fault =>
    rw [hid] at houtcome
    cases houtcome
  | ok other =>
    rw [hid] at houtcome
    cases houtcome
    exact ⟨h, hid, rfl, index?_tabContext .., var?_tabContext .., rfl⟩

/-! ### Runs -/

/-- What a run gives, the state of the caller's work, and the warnings; a fault loses the state. -/
abbrev Result (σ α : Type) := Except SelectorFault (Except ExtractionFailure α × σ) × WarningLog

/-- A visit to a button that went well: the context that the visit was given, and what it left of
it. -/
structure ButtonVisit where
  button : Element
  id : Text
  entry : Context
  left : Context

/-- Visits to buttons from an index on, each begun in the state that the one before it left. -/
inductive ButtonRun (reader : TabsReader) (visitor : TabActions σ) (c : Context) :
    Nat → σ × WarningLog → List ButtonVisit → σ × WarningLog → Prop
  | nil (index : Nat) (world : σ × WarningLog) : ButtonRun reader visitor c index world [] world
  | cons {index : Nat} {world next last : σ × WarningLog} {log : WarningLog} {visit : ButtonVisit}
      {visits : List ButtonVisit}
      (opens : Opens reader c index visit.button visit.id visit.entry world.2 log)
      (visited : visitor.atButton visit.button visit.entry world.1 log =
        ((.ok visit.left, next.1), next.2))
      (rest : ButtonRun reader visitor c (index + 1) next visits last) :
      ButtonRun reader visitor c index world (visit :: visits) last

/-- A button ends the run: the visit to it fails, or no identifier can be extracted from it. -/
inductive ButtonStop {α : Type} (reader : TabsReader) (visitor : TabActions σ) (c : Context)
    (index : Nat) (button : Element) (world : σ × WarningLog) : Result σ α → Prop
  | failed {id source : Text} {entry : Context} {log log' : WarningLog} {state : σ}
      (opens : Opens reader c index button id entry world.2 log)
      (visited : visitor.atButton button entry world.1 log = ((.error source, state), log')) :
      ButtonStop reader visitor c index button world
        (.ok (.error (.buttonFailed index source), state), log')
  | fault {fault : SelectorFault} {log : WarningLog}
      (opened : reader.openTab c index button world.2 = (.error fault, log))
      (tabId_eq : reader.tabId c index button = .error fault) :
      ButtonStop reader visitor c index button world (.error fault, log)

theorem bind_run {α β : Type} (x : StateT σ Extraction α) (f : α → StateT σ Extraction β) (s : σ)
    (log : WarningLog) :
    (x >>= f) s log =
      match x s log with
      | (.ok (a, s'), log') => f a s' log'
      | (.error fault, log') => (.error fault, log') := by
  refine (Extraction.bind_apply (x s) (fun p => f p.1 p.2) log).trans ?_
  cases x s log with
  | mk outcome after => cases outcome <;> rfl

theorem lift_run {α : Type} (x : Extraction α) (s : σ) (log : WarningLog) :
    (liftM x : StateT σ Extraction α) s log =
      match x log with
      | (.ok a, log') => (.ok (a, s), log')
      | (.error fault, log') => (.error fault, log') :=
  Extraction.bind_apply x (fun a => pure (a, s)) log

theorem insideExtraction_run {α : Type} (work : StateT σ Recording α) (s : σ) (log : WarningLog) :
    insideExtraction work s log = (.ok (work s log).1, (work s log).2) :=
  rfl

theorem visitButtons_cons (reader : TabsReader) (visitor : TabActions σ) (c : Context) (index : Nat)
    (button : Element) (buttons : List Element) (tabs : TabList) (s : σ) (log : WarningLog) :
    visitButtons reader visitor c index (button :: buttons) tabs s log =
      match reader.openTab c index button log with
      | (.error fault, log') => (.error fault, log')
      | (.ok (id, entry), log') =>
        match visitor.atButton button entry s log' with
        | ((.error source, s'), log'') => (.ok (.error (.buttonFailed index source), s'), log'')
        | ((.ok left, s'), log'') =>
          visitButtons reader visitor c (index + 1) buttons (Members.put id left tabs) s'
            log'' := by
  rw [visitButtons, bind_run, lift_run]
  cases reader.openTab c index button log with
  | mk outcome log' =>
    cases outcome with
    | error fault => rfl
    | ok opened =>
      obtain ⟨id, entry⟩ := opened
      simp only [bind_run, insideExtraction_run]
      cases visitor.atButton button entry s log' with
      | mk result log'' =>
        obtain ⟨outcome, s'⟩ := result
        cases outcome <;> rfl

/-- The visits to some buttons either reach the last of them or stop at one. -/
theorem visitButtons_run (reader : TabsReader) (visitor : TabActions σ) (c : Context) (index : Nat)
    (buttons : List Element) (tabs : TabList) (world : σ × WarningLog) :
    (∃ visits last, buttons = visits.map ButtonVisit.button ∧
      ButtonRun reader visitor c index world visits last ∧
      visitButtons reader visitor c index buttons tabs world.1 world.2 =
        (.ok (.ok ((visits.map fun visit => (visit.id, visit.left)).foldl
          (fun tabs tab => Members.put tab.1 tab.2 tabs) tabs), last.1), last.2)) ∨
    ∃ visits button rest last, buttons = visits.map ButtonVisit.button ++ button :: rest ∧
      ButtonRun reader visitor c index world visits last ∧
      ButtonStop reader visitor c (index + visits.length) button last
        (visitButtons reader visitor c index buttons tabs world.1 world.2) := by
  induction buttons generalizing index tabs world with
  | nil => exact .inl ⟨[], world, rfl, .nil index world, rfl⟩
  | cons button buttons ih =>
    rw [visitButtons_cons]
    rcases hopen : reader.openTab c index button world.2 with ⟨fault | ⟨id, entry⟩, log⟩
    · exact .inr ⟨[], button, buttons, world, rfl, .nil index world,
        .fault hopen (tabId_of_fault hopen)⟩
    · have hopens := opens_of_openTab hopen
      rcases hvisit : visitor.atButton button entry world.1 log with ⟨⟨source | left, s⟩, log'⟩
      · refine .inr ⟨[], button, buttons, world, rfl, .nil index world, ?_⟩
        simp only [hvisit]
        exact .failed hopens hvisit
      · simp only [hvisit]
        have hcons {visits : List ButtonVisit} {last : σ × WarningLog}
            (hrun : ButtonRun reader visitor c (index + 1) (s, log') visits last) :
            ButtonRun reader visitor c index world (⟨button, id, entry, left⟩ :: visits) last :=
          .cons hopens hvisit hrun
        rcases ih (index + 1) (Members.put id left tabs) (s, log') with
          ⟨visits, last, hbuttons, hrun, hresult⟩ |
            ⟨visits, stop, rest, last, hbuttons, hrun, hstop⟩
        · exact .inl ⟨⟨button, id, entry, left⟩ :: visits, last, congrArg (button :: ·) hbuttons,
            hcons hrun, hresult⟩
        · refine .inr ⟨⟨button, id, entry, left⟩ :: visits, stop, rest, last,
            congrArg (button :: ·) hbuttons, hcons hrun, ?_⟩
          rw [List.length_cons, Nat.add_comm visits.length, ← Nat.add_assoc]
          exact hstop

/-- The tabs of some visits: every identifier once, where it came first, with the context that the
last visit to a button of this identifier left. -/
structure ListsTabs (visits : List ButtonVisit) (tabs : TabList) : Prop where
  ids_eq : tabs.map Prod.fst = (visits.map ButtonVisit.id).eraseDups
  left_eq : ∀ id, Members.find? id tabs =
    (visits.reverse.find? fun visit => visit.id == id).map ButtonVisit.left

theorem listsTabs_collect (visits : List ButtonVisit) :
    ListsTabs visits (Members.collect (visits.map fun visit => (visit.id, visit.left))) where
  ids_eq := by
    rw [Members.keys_collect, List.map_map]
    rfl
  left_eq id := by
    rw [Members.find?_collect, ← List.map_reverse, Members.find?, List.find?_map, Option.map_map]
    rfl

/-! ### Cards -/

/-- The first match of the card selector, which is resolved in the context of the tab; a malformed
selector has none. -/
def cardOf (container : Element) (tab : Context) (cards : TabCards) :
    Except SelectorFault (Option Element) :=
  match SelectorList.read (Template.resolve tab cards.box) with
  | .ok selectors => .ok (container.select selectors).head?
  | .error fault => if fault.hasWording then .ok none else .error fault

/-- The warnings after the search for a card: a malformed selector has been noticed. -/
def searchLog (tab : Context) (cards : TabCards) (log : WarningLog) : WarningLog :=
  match SelectorList.read (Template.resolve tab cards.box) with
  | .ok _ => log
  | .error fault =>
    let selector := Template.resolve tab cards.box
    let failure := ExtractionFailure.malformedSelector selector (tab.wording selector fault)
    (tab.warn malformedSelectorCode failure.message log).2

/-- The warnings after a tab was found to have no card. -/
def missingLog (tab : Text × Context) (cards : TabCards) (log : WarningLog) : WarningLog :=
  (tab.2.warn "TAB_CARD_MISSING" ("No card matches '".toList ++ Template.resolve tab.2 cards.box ++
    "' for tab '".toList ++ tab.1 ++ ['\'']) (searchLog tab.2 cards log)).2

theorem findCard_run (container : Element) (tab : Context) (cards : TabCards) (log : WarningLog) :
    findCard container tab (Template.resolve tab cards.box) log =
      match cardOf container tab cards with
      | .ok card => (.ok card, searchLog tab cards log)
      | .error fault => (.error fault, log) := by
  unfold findCard readSelector cardOf searchLog
  rw [Extraction.bind_apply]
  cases SelectorList.read (Template.resolve tab cards.box) with
  | ok selectors => rfl
  | error fault =>
    cases hwording : fault.hasWording <;> simp only [hwording] <;> rfl

/-- One tab is done: its card is visited, or it has none and gets a warning. -/
inductive CardStep (visitor : TabActions σ) (container : Element) (cards : TabCards) :
    σ × WarningLog → Text × Context → Context → σ × WarningLog → Prop
  | found {world next : σ × WarningLog} {tab : Text × Context} {card : Element} {left : Context}
      (card_eq : cardOf container tab.2 cards = .ok (some card))
      (visited : visitor.atCard card tab.2 world.1 world.2 = ((.ok left, next.1), next.2)) :
      CardStep visitor container cards world tab left next
  | missing {world : σ × WarningLog} {tab : Text × Context}
      (card_eq : cardOf container tab.2 cards = .ok none) :
      CardStep visitor container cards world tab tab.2 (world.1, missingLog tab cards world.2)

/-- Tabs done one after another, each begun in the state that the one before it left. -/
inductive CardRun (visitor : TabActions σ) (container : Element) (cards : TabCards) :
    σ × WarningLog → TabList → TabList → σ × WarningLog → Prop
  | nil (world : σ × WarningLog) : CardRun visitor container cards world [] [] world
  | cons {world next last : σ × WarningLog} {tab : Text × Context} {left : Context}
      {tabs lefts : TabList} (step : CardStep visitor container cards world tab left next)
      (rest : CardRun visitor container cards next tabs lefts last) :
      CardRun visitor container cards world (tab :: tabs) ((tab.1, left) :: lefts) last

/-- A tab ends the run: the visit to its card fails, or a message cannot say why its selector is
none. -/
inductive CardStop {α : Type} (visitor : TabActions σ) (container : Element) (cards : TabCards)
    (tab : Text × Context) (world : σ × WarningLog) : Result σ α → Prop
  | failed {card : Element} {source : Text} {state : σ} {log : WarningLog}
      (card_eq : cardOf container tab.2 cards = .ok (some card))
      (visited : visitor.atCard card tab.2 world.1 world.2 = ((.error source, state), log)) :
      CardStop visitor container cards tab world
        (.ok (.error (.cardFailed tab.1 source), state), log)
  | fault {fault : SelectorFault} (card_eq : cardOf container tab.2 cards = .error fault) :
      CardStop visitor container cards tab world (.error fault, world.2)

/-- A card that was found leaves the warnings as they are. -/
theorem searchLog_of_found {container : Element} {tab : Context} {cards : TabCards} {card : Element}
    (h : cardOf container tab cards = .ok (some card)) (log : WarningLog) :
    searchLog tab cards log = log := by
  unfold cardOf at h
  unfold searchLog
  cases hread : SelectorList.read (Template.resolve tab cards.box) with
  | ok selectors => rfl
  | error fault =>
    rw [hread] at h
    simp only at h
    split at h <;> cases h

/-- A tab in front of those that a run gives. -/
def Result.addTab (tab : Text × Context) : Result σ TabList → Result σ TabList
  | (.ok (tabs, s), log) => (.ok (tabs.map (tab :: ·), s), log)
  | (.error fault, log) => (.error fault, log)

theorem addTab_run (tab : Text × Context)
    (x : StateT σ Extraction (Except ExtractionFailure TabList)) (s : σ) (log : WarningLog) :
    (x >>= fun tabs => pure (tabs.map (tab :: ·))) s log = Result.addTab tab (x s log) := by
  rw [bind_run]
  rcases x s log with ⟨fault | ⟨tabs, s'⟩, log'⟩ <;> rfl

theorem visitCards_cons (visitor : TabActions σ) (container : Element) (cards : TabCards)
    (tab : Text × Context) (tabs : TabList) (s : σ) (log : WarningLog) :
    visitCards visitor container cards (tab :: tabs) s log =
      match cardOf container tab.2 cards with
      | .error fault => (.error fault, log)
      | .ok none =>
        Result.addTab tab (visitCards visitor container cards tabs s (missingLog tab cards log))
      | .ok (some card) =>
        match visitor.atCard card tab.2 s log with
        | ((.error source, s'), log') => (.ok (.error (.cardFailed tab.1 source), s'), log')
        | ((.ok left, s'), log') =>
          Result.addTab (tab.1, left) (visitCards visitor container cards tabs s' log') := by
  obtain ⟨id, tab⟩ := tab
  rw [visitCards, bind_run, lift_run, findCard_run]
  cases hcard : cardOf container tab cards with
  | error fault => rfl
  | ok card =>
    cases card with
    | none =>
      rw [← addTab_run]
      rfl
    | some card =>
      simp only [bind_run, insideExtraction_run, searchLog_of_found hcard]
      rcases visitor.atCard card tab s log with ⟨⟨source | left, s'⟩, log'⟩
      · rfl
      · exact addTab_run (id, left) (visitCards visitor container cards tabs) s' log'

theorem CardStop.addTab {visitor : TabActions σ} {container : Element} {cards : TabCards}
    {tab : Text × Context} {world : σ × WarningLog} {result : Result σ TabList}
    (h : CardStop visitor container cards tab world result) (first : Text × Context) :
    CardStop visitor container cards tab world (Result.addTab first result) := by
  cases h with
  | failed card_eq visited => exact .failed card_eq visited
  | fault card_eq => exact .fault card_eq

/-- The tabs are either all done or the run stops at one of them. -/
theorem visitCards_run (visitor : TabActions σ) (container : Element) (cards : TabCards)
    (tabs : TabList) (world : σ × WarningLog) :
    (∃ lefts last, CardRun visitor container cards world tabs lefts last ∧
      visitCards visitor container cards tabs world.1 world.2 = (.ok (.ok lefts, last.1), last.2)) ∨
    ∃ before tab after lefts last, tabs = before ++ tab :: after ∧
      CardRun visitor container cards world before lefts last ∧
      CardStop visitor container cards tab last
        (visitCards visitor container cards tabs world.1 world.2) := by
  induction tabs generalizing world with
  | nil => exact .inl ⟨[], world, .nil world, rfl⟩
  | cons tab tabs ih =>
    -- Once a tab is done, the rest of the run starts where it left off.
    have hcons {left : Context} {next : σ × WarningLog}
        (hstep : CardStep visitor container cards world tab left next)
        (hresult : visitCards visitor container cards (tab :: tabs) world.1 world.2 =
          Result.addTab (tab.1, left) (visitCards visitor container cards tabs next.1 next.2)) :
        (∃ lefts last, CardRun visitor container cards world (tab :: tabs) lefts last ∧
          visitCards visitor container cards (tab :: tabs) world.1 world.2 =
            (.ok (.ok lefts, last.1), last.2)) ∨
        ∃ before stop after lefts last, tab :: tabs = before ++ stop :: after ∧
          CardRun visitor container cards world before lefts last ∧
          CardStop visitor container cards stop last
            (visitCards visitor container cards (tab :: tabs) world.1 world.2) := by
      rw [hresult]
      rcases ih next with ⟨lefts, last, hrun, hrest⟩ |
        ⟨before, stop, after, lefts, last, htabs, hrun, hstop⟩
      · refine .inl ⟨(tab.1, left) :: lefts, last, .cons hstep hrun, ?_⟩
        rw [hrest]
        rfl
      · exact .inr ⟨tab :: before, stop, after, (tab.1, left) :: lefts, last,
          congrArg (tab :: ·) htabs, .cons hstep hrun, hstop.addTab _⟩
    have hvisit := visitCards_cons visitor container cards tab tabs world.1 world.2
    cases hcard : cardOf container tab.2 cards with
    | error fault =>
      rw [hcard] at hvisit
      exact .inr ⟨[], tab, tabs, [], world, rfl, .nil world, hvisit ▸ .fault hcard⟩
    | ok card =>
      rw [hcard] at hvisit
      cases card with
      | none => exact hcons (.missing hcard) hvisit
      | some card =>
        simp only at hvisit
        rcases hwork : visitor.atCard card tab.2 world.1 world.2 with ⟨⟨source | left, s⟩, log⟩
        · rw [hwork] at hvisit
          exact .inr ⟨[], tab, tabs, [], world, rfl, .nil world, hvisit ▸ .failed hcard hwork⟩
        · rw [hwork] at hvisit
          have hstep : CardStep visitor container cards world tab left (s, log) :=
            .found hcard hwork
          exact hcons hstep hvisit

/-! ### Whole runs -/

/-- The number of tabs whose cards are looked for: all of them, or as many as the cap allows. -/
def cardCount (reader : TabsReader) (tabs : TabList) : Nat :=
  match reader.cap.limit with
  | none => tabs.length
  | some limit => min limit tabs.length

/-- A run over some buttons.  They are visited in order until one of them stops everything; only
when all have been visited, the tabs are listed, and the first of them are done in the order of the
list, until one of them stops everything. -/
inductive TabsRun (reader : TabsReader) (visitor : TabActions σ) (c : Context) (container : Element)
    (buttons : List Element) (world : σ × WarningLog) : Result σ TabList → Prop
  | buttonStops {visits : List ButtonVisit} {button : Element} {rest : List Element}
      {last : σ × WarningLog} {result : Result σ TabList}
      (buttons_eq : buttons = visits.map ButtonVisit.button ++ button :: rest)
      (visited : ButtonRun reader visitor c 0 world visits last)
      (stops : ButtonStop reader visitor c visits.length button last result) :
      TabsRun reader visitor c container buttons world result
  | withoutCards {visits : List ButtonVisit} {tabs : TabList} {last : σ × WarningLog}
      (buttons_eq : buttons = visits.map ButtonVisit.button)
      (visited : ButtonRun reader visitor c 0 world visits last)
      (lists : ListsTabs visits tabs)
      (cards_eq : reader.layout.cards = none) :
      TabsRun reader visitor c container buttons world (.ok (.ok tabs, last.1), last.2)
  | cardStops {visits : List ButtonVisit} {tabs before after lefts : TabList}
      {tab : Text × Context} {cards : TabCards} {last reached : σ × WarningLog}
      {result : Result σ TabList}
      (buttons_eq : buttons = visits.map ButtonVisit.button)
      (visited : ButtonRun reader visitor c 0 world visits last)
      (lists : ListsTabs visits tabs)
      (cards_eq : reader.layout.cards = some cards)
      (tabs_eq : tabs.take (cardCount reader tabs) = before ++ tab :: after)
      (done : CardRun visitor container cards last before lefts reached)
      (stops : CardStop visitor container cards tab reached result) :
      TabsRun reader visitor c container buttons world result
  | withCards {visits : List ButtonVisit} {tabs lefts : TabList} {cards : TabCards}
      {last reached : σ × WarningLog}
      (buttons_eq : buttons = visits.map ButtonVisit.button)
      (visited : ButtonRun reader visitor c 0 world visits last)
      (lists : ListsTabs visits tabs)
      (cards_eq : reader.layout.cards = some cards)
      (done : CardRun visitor container cards last (tabs.take (cardCount reader tabs)) lefts
        reached) :
      TabsRun reader visitor c container buttons world
        (.ok (.ok (lefts ++ tabs.drop (cardCount reader tabs)), reached.1), reached.2)

theorem take_clamp (reader : TabsReader) (tabs : TabList) :
    tabs.take ((reader.cap.clamp none).getD tabs.length) = tabs.take (cardCount reader tabs) ∧
      tabs.drop ((reader.cap.clamp none).getD tabs.length) = tabs.drop (cardCount reader tabs) := by
  unfold Cap.clamp cardCount
  cases reader.cap.limit with
  | none => exact ⟨rfl, rfl⟩
  | some limit =>
    simp only [Option.getD_some]
    rcases Nat.le_total limit tabs.length with hle | hle
    · rw [Nat.min_eq_left hle]
      exact ⟨rfl, rfl⟩
    · rw [Nat.min_eq_right hle, List.take_of_length_le hle, List.take_length,
        List.drop_of_length_le hle, List.drop_length]
      exact ⟨rfl, rfl⟩

/-- The run after its button selector has been read. -/
theorem read_of_selectors {reader : TabsReader} {c : Context} {selectors : SelectorList}
    (hbuttons : SelectorList.read (Template.resolve c reader.layout.buttons.box) = .ok selectors)
    (visitor : TabActions σ) (container : Element) (s : σ) (log : WarningLog) :
    reader.read visitor c container s log =
      match visitButtons reader visitor c 0 (container.select selectors) [] s log with
      | (.error fault, log') => (.error fault, log')
      | (.ok (.error error, s'), log') => (.ok (.error error, s'), log')
      | (.ok (.ok tabs, s'), log') =>
        match reader.layout.cards with
        | none => (.ok (.ok tabs, s'), log')
        | some cards =>
          match visitCards visitor container cards (tabs.take (cardCount reader tabs)) s' log' with
          | (.error fault, log'') => (.error fault, log'')
          | (.ok (visited, s''), log'') =>
            (.ok (visited.map (· ++ tabs.drop (cardCount reader tabs)), s''), log'') := by
  have hread : readSelector c (Template.resolve c reader.layout.buttons.box) log =
      (.ok (some selectors), log) := by
    unfold readSelector
    rw [hbuttons]
    rfl
  unfold read
  rw [bind_run, lift_run, hread]
  simp only [bind_run]
  rcases visitButtons reader visitor c 0 (container.select selectors) [] s log with
    ⟨fault | ⟨error | tabs, s'⟩, log'⟩
  · rfl
  · rfl
  · simp only [(take_clamp reader tabs).1, (take_clamp reader tabs).2]
    cases reader.layout.cards with
    | none => rfl
    | some cards =>
      simp only [bind_run]
      rcases visitCards visitor container cards (tabs.take (cardCount reader tabs)) s' log' with
        ⟨fault | ⟨visited, s''⟩, log''⟩ <;> rfl

/-- **Every run visits the buttons in order, each in a branch of its own, and then the cards of the
first tabs, each in the context that its button left; the first failure ends it, and so does a
selector whose fault no message can name.** -/
theorem read_tabsRun {reader : TabsReader} {c : Context} {selectors : SelectorList}
    (hbuttons : SelectorList.read (Template.resolve c reader.layout.buttons.box) = .ok selectors)
    (visitor : TabActions σ) (container : Element) (world : σ × WarningLog) :
    TabsRun reader visitor c container (container.select selectors) world
      (reader.read visitor c container world.1 world.2) := by
  rw [read_of_selectors hbuttons]
  rcases visitButtons_run reader visitor c 0 (container.select selectors) [] world with
    ⟨visits, last, hvisits, hrun, hresult⟩ | ⟨visits, button, rest, last, hvisits, hrun, hstop⟩
  · have hlists := listsTabs_collect visits
    unfold Members.collect at hlists
    generalize List.foldl _ [] _ = tabs at hresult hlists
    rw [hresult]
    simp only
    cases hcards : reader.layout.cards with
    | none => exact .withoutCards hvisits hrun hlists hcards
    | some cards =>
      simp only
      rcases visitCards_run visitor container cards (tabs.take (cardCount reader tabs)) last with
        ⟨lefts, reached, hdone, hall⟩ | ⟨before, tab, after, lefts, reached, htabs, hdone, hstop⟩
      · rw [hall]
        exact .withCards hvisits hrun hlists hcards hdone
      · refine .cardStops hvisits hrun hlists hcards htabs hdone ?_
        generalize visitCards visitor container cards _ _ _ = result at hstop
        cases hstop with
        | failed card_eq visited => exact .failed card_eq visited
        | fault card_eq => exact .fault card_eq
  · rw [Nat.zero_add] at hstop
    refine .buttonStops hvisits hrun ?_
    generalize visitButtons reader visitor c _ _ _ _ _ = result at hstop
    cases hstop with
    | failed opens visited => exact .failed opens visited
    | fault opened tabId_eq => exact .fault opened tabId_eq

/-- Cards whose identifiers are made from the days of their tabs. -/
def dayCards : TabCards :=
  ⟨['#', 'd', '-', ':', 't', 'a', 'b', 'I', 'd', ':']⟩

/-- Tabs that are identified by their days. -/
def dayTabs : TabsReader :=
  ⟨⟨⟨['l', 'i'], some (.shorthand "@day")⟩, some dayCards⟩, ⟨none⟩⟩

/-- A caller that only passes by. -/
def passing : TabActions Unit where
  atButton _ c := return .ok c

/-- A list with one button for each of some days, and no cards. -/
def dayList (days : List Text) : Element :=
  ⟨['u', 'l'], [], days.map fun day => .element ['l', 'i'] [(['d', 'a', 'y'], day)] [], []⟩

theorem read_dayButtons :
    SelectorList.read (Template.resolve { lineage := [0] } dayTabs.layout.buttons.box) =
      .ok [.compound [.tag ['l', 'i']]] := by
  cbv

/-- A day that comes twice. -/
theorem read_tabsRun_twice :
    SelectorList.read (Template.resolve { lineage := [0] } dayTabs.layout.buttons.box) =
        .ok [.compound [.tag ['l', 'i']]] ∧
      TabsRun dayTabs passing { lineage := [0] } (dayList ["mon", "tue", "mon"])
        ((dayList ["mon", "tue", "mon"]).select [.compound [.tag ['l', 'i']]]) ((), [[]])
        (dayTabs.read passing { lineage := [0] } (dayList ["mon", "tue", "mon"]) () [[]]) :=
  ⟨read_dayButtons, read_tabsRun read_dayButtons passing (dayList ["mon", "tue", "mon"]) ((), [[]])⟩

/-- The button of the day `a/b`. -/
def slashButton : Element :=
  ⟨['l', 'i'], [(['d', 'a', 'y'], ['a', '/', 'b'])], [],
    [⟨0, ['u', 'l'], [], (dayList [['a', '/', 'b']]).children⟩]⟩

/-- The tab of the day `a/b`. -/
def slashTab : Context :=
  tabContext { lineage := [0] } 1 0 ['a', '/', 'b']

theorem select_slash :
    (dayList [['a', '/', 'b']]).select [.compound [.tag ['l', 'i']]] = [slashButton] := by
  cbv

theorem openTab_slash : dayTabs.openTab { lineage := [0] } 0 slashButton [[]] =
    (.ok (['a', '/', 'b'], slashTab), [[], []]) := by
  rfl

theorem resolve_slash :
    Template.resolve slashTab dayCards.box = ['#', 'd', '-', 'a', '/', 'b'] := by
  have hsegments : Template.segments dayCards.box =
      [.literal '#', .literal 'd', .literal '-',
        .placeholder ⟨['t', 'a', 'b', 'I', 'd'], none⟩] := by
    cbv
  have hpath : PathStep.ofPath ['t', 'a', 'b', 'I', 'd'] = [.key ['t', 'a', 'b', 'I', 'd']] := by
    cbv
  rw [Template.resolve, hsegments]
  simp only [List.flatMap_cons, Template.resolveSegment, Context.find?, hpath]
  rfl

theorem cardOf_slash (container : Element) :
    cardOf container slashTab dayCards = .error (.unexpected (.delim '/')) := by
  have hread : SelectorList.read ['#', 'd', '-', 'a', '/', 'b'] =
      .error (.unexpected (.delim '/')) := by
    cbv
  rw [cardOf, resolve_slash, hread]
  rfl

/-- The selector of the card of the day `a/b` ends the run: there is neither a visit nor a warning,
though the layout is accepted and the button was visited. -/
theorem read_slash :
    ofLayout dayTabs.layout dayTabs.cap = .ok dayTabs ∧
      SelectorList.read (Template.resolve { lineage := [0] } dayTabs.layout.buttons.box) =
        .ok [.compound [.tag ['l', 'i']]] ∧
      (dayTabs.read passing { lineage := [0] } (dayList [['a', '/', 'b']]) () [[]]).1 =
        .error (.unexpected (.delim '/')) := by
  refine ⟨rfl, read_dayButtons, ?_⟩
  have hbuttons : visitButtons dayTabs passing { lineage := [0] } 0 [slashButton] [] () [[]] =
      (.ok (.ok [(['a', '/', 'b'], slashTab)], ()), [[], []]) := by
    rw [visitButtons_cons, openTab_slash]
    rfl
  have hvisits (container : Element) (tabs : TabList) (log : WarningLog) :
      visitCards passing container dayCards ((['a', '/', 'b'], slashTab) :: tabs) () log =
        (.error (.unexpected (.delim '/')), log) := by
    rw [visitCards_cons, cardOf_slash]
  rw [read_of_selectors read_dayButtons, select_slash, hbuttons]
  simp only [cardCount, dayTabs, List.take_length, hvisits]

end Playbill.TabsReader
