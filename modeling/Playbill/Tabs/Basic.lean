import Playbill.Cap
import Playbill.Field.Extractor

/-!
# Tabbed pages

A tabbed page has one button for each tab and one card with its content.  All buttons are visited
first, then the cards, each in the context of its tab.

* `TabActions`: the caller's work at a button and at a card.
* `TabList`: the contexts of the tabs by their identifiers, in the order of the buttons.
* `TabsReader.ofLayout`: a reader for a page layout; empty selectors are refused.
* `TabsReader.read`: the visits.
-/

namespace Playbill

/-- The caller's work at a button and at a card: it leaves the tab's context changed, or fails with
a message. -/
structure TabActions (σ : Type) where
  atButton : Element → Context → StateT σ Recording (Except Text Context)
  atCard : Element → Context → StateT σ Recording (Except Text Context) :=
    fun _ c => return .ok c

/-- The contexts of tabs by identifier; a tab that comes again keeps its place. -/
abbrev TabList := List (Text × Context)

/-- A reader for tabbed pages of one layout. -/
structure TabsReader where
  layout : TabLayout
  cap : Cap

namespace TabsReader

/-- A reader for a page layout.  Both selectors have to be more than blanks. -/
def ofLayout (layout : TabLayout) (cap : Cap) : Except ExtractionFailure TabsReader :=
  if (Text.trim layout.buttons.box).isEmpty then
    .error (.misconfigured "tabs.buttons.box" "selector must not be empty")
  else if layout.cards.any fun cards => (Text.trim cards.box).isEmpty then
    .error (.misconfigured "tabs.cards.box" "selector must not be empty")
  else .ok ⟨layout, cap⟩

/-- The identifier of the tab of a button: the value extracted from it, else its index. -/
def identify (reader : TabsReader) (c : Context) (index : Nat) (button : Element) :
    Extraction Text :=
  match reader.layout.buttons.id with
  | none => return Text.ofNat index
  | some field => do
    match ← (Extractor.ofDeclaration (some field)).first c button with
    | .null =>
      c.warn "TAB_ID_MISSING"
        ("Tab button ".toList ++ Text.ofNat index ++ " has no id, using its index".toList)
      return Text.ofNat index
    | .string id => return id
    | value => return value.compact

variable {σ : Type}

/-- The caller's work as a part of an extraction. -/
def insideExtraction {α : Type} (work : StateT σ Recording α) : StateT σ Extraction α :=
  fun state => (work state : Recording (α × σ))

/-- The identifier of a tab and the context of a visit to its button. -/
def openTab (reader : TabsReader) (c : Context) (index : Nat) (button : Element) :
    Extraction (Text × Context) := do
  let branch := (← (c.branch : Recording Context)).withIndex "tab" index
  let id ← reader.identify branch index button
  return (id, (branch.withVar "tabId" (.string id)).enter ("tab:".toList ++ id))

/-- Visits buttons from an index on; the first failure ends everything. -/
def visitButtons (reader : TabsReader) (visitor : TabActions σ) (c : Context) :
    Nat → List Element → TabList → StateT σ Extraction (Except ExtractionFailure TabList)
  | _, [], tabs => return .ok tabs
  | index, button :: buttons, tabs => do
    let (id, tab) ← reader.openTab c index button
    match ← insideExtraction (visitor.atButton button tab) with
    | .error source => return .error (.buttonFailed index source)
    | .ok tab => visitButtons reader visitor c (index + 1) buttons (Members.put id tab tabs)

/-- The card of a tab, by a selector that is resolved in the context of the tab. -/
def findCard (container : Element) (tab : Context) (selector : Text) :
    Extraction (Option Element) := do
  match ← readSelector tab selector with
  | some selectors => return (container.select selectors).head?
  | none => return none

/-- Visits the cards of tabs in order; a tab without a card gets a warning. -/
def visitCards (visitor : TabActions σ) (container : Element) (cards : TabCards) :
    TabList → StateT σ Extraction (Except ExtractionFailure TabList)
  | [] => return .ok []
  | (id, tab) :: tabs => do
    let selector := Template.resolve tab cards.box
    match ← findCard container tab selector with
    | none =>
      tab.warn "TAB_CARD_MISSING"
        ("No card matches '".toList ++ selector ++ "' for tab '".toList ++ id ++ ['\''])
      return (← visitCards visitor container cards tabs).map ((id, tab) :: ·)
    | some card =>
      match ← insideExtraction (visitor.atCard card tab) with
      | .error source => return .error (.cardFailed id source)
      | .ok tab => return (← visitCards visitor container cards tabs).map ((id, tab) :: ·)

/-- Visits every button below a container, then the cards of as many tabs as the cap allows. -/
def read (reader : TabsReader) (visitor : TabActions σ) (c : Context) (container : Element) :
    StateT σ Extraction (Except ExtractionFailure TabList) := do
  let selector := Template.resolve c reader.layout.buttons.box
  match ← readSelector c selector with
  | none => return .ok []
  | some selectors =>
    match ← visitButtons reader visitor c 0 (container.select selectors) [] with
    | .error error => return .error error
    | .ok tabs =>
      match reader.layout.cards with
      | none => return .ok tabs
      | some cards =>
        let count := (reader.cap.clamp none).getD tabs.length
        let visited ← visitCards visitor container cards (tabs.take count)
        return visited.map (· ++ tabs.drop count)

end TabsReader

end Playbill
