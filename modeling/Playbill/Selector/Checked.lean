import Playbill.Context.Basic
import Playbill.Failure
import Playbill.Selector.Match
import Playbill.Selector.Parser

/-!
# Reading selectors in a context

* `Extraction`: a computation that reads selectors.
* `readSelector`: the selector list of a text; a malformed text is no error but a warning.
-/

namespace Playbill

/-- A computation that reads selectors.  It may record warnings, and it stops at a fault that a
warning cannot word. -/
abbrev Extraction := ExceptT SelectorFault Recording

/-- The code of the warning about a malformed selector. -/
def malformedSelectorCode : Text := "INVALID_SELECTOR"

/-- The selector list of a text.  A malformed text records a warning and gives nothing. -/
def readSelector (c : Context) (selector : Text) : Extraction (Option SelectorList) := do
  match SelectorList.read selector with
  | .ok selectors => return some selectors
  | .error fault =>
    if fault.hasWording then
      let failure := ExtractionFailure.malformedSelector selector (c.wording selector fault)
      c.warn malformedSelectorCode failure.message
      return none
    else throw fault

end Playbill
