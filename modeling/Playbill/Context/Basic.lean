import Playbill.Calendar.DateTime
import Playbill.Context.Warning
import Playbill.Json.Basic
import Playbill.Selector.Reading

/-!
# Extraction contexts

A context carries what is known at one point of an extraction: indexes of the running iterations,
variables, the date and the movie at hand, and a call stack.  It also holds what messages say about
malformed selectors, which is the same in every context of an extraction.

* `Context`: the data of a context and the chain of its warning scopes.
* `Context.root`, `Context.branch`: a fresh context, and a copy with a scope of its own below.
* `Context.warn`: records a warning here and on every ancestor.
* `Context.warnings`: the warnings of a context.
-/

namespace Playbill

/-- The state of an extraction at one point.  `lineage` holds the number of the context's own
warning scope, then those of its ancestors, the nearest first.  `wording` says of a malformed selector
what its fault is. -/
structure Context where
  lineage : List Nat
  indexes : List (Text × Nat) := []
  date : Option DateTime := none
  movie : Option Json := none
  vars : List (Text × Json) := []
  frames : List Text := []
  dateFormat : Text := "YYYY-MM-DD"
  dateLocale : Text := "en"
  wording : Text → SelectorFault → Text := fun _ _ => []

namespace Context

/-- A fresh context without ancestors. -/
def root : Recording Context := do
  let scope ← Recording.openScope
  return { lineage := [scope] }

/-- A copy with a scope of its own below the scope of the given context. -/
def branch (c : Context) : Recording Context := do
  let scope ← Recording.openScope
  return { c with lineage := scope :: c.lineage }

/-- Whether the context was branched from another one. -/
def isBranch (c : Context) : Bool :=
  c.lineage.length > 1

/-- The index of an iteration. -/
def index? (c : Context) (name : Text) : Option Nat :=
  Members.find? name c.indexes

/-- Sets the index of an iteration. -/
def withIndex (c : Context) (name : Text) (value : Nat) : Context :=
  { c with indexes := Members.insert name value c.indexes }

/-- The value of a variable. -/
def var? (c : Context) (name : Text) : Option Json :=
  Members.find? name c.vars

/-- Sets a variable. -/
def withVar (c : Context) (name : Text) (value : Json) : Context :=
  { c with vars := Members.insert name value c.vars }

/-- Puts a frame on the call stack. -/
def enter (c : Context) (frame : Text) : Context :=
  { c with frames := c.frames ++ [frame] }

/-- Takes the latest frame from the call stack. -/
def leave (c : Context) : Context :=
  { c with frames := c.frames.dropLast }

/-- The call stack as it stands in a warning. -/
def location (c : Context) : Text :=
  Text.joinWith " > " c.frames

/-- Records a warning here and on every ancestor. -/
def warn (c : Context) (code message : Text) : Recording Unit :=
  modify fun log => log.record c.lineage ⟨code, message, c.location⟩

/-- The warnings recorded on a context or on anything branched from it. -/
def warnings (c : Context) (log : WarningLog) : List Warning :=
  match c.lineage with
  | scope :: _ => log.of scope
  | [] => []

end Context

end Playbill
