import Playbill.Text.Basic

/-!
# Failures of extractions

Failures that are reported to the caller.  A selector that matches nothing or a placeholder that
does not resolve is none.

* `ExtractionFailure`: the causes.
* `ExtractionFailure.message`: their wording.
* `ExtractionFailure.recordGoesOn`: whether the surrounding record can go on.
-/

namespace Playbill

/-- Why an extraction failed. -/
inductive ExtractionFailure
  | malformedSelector (selector reason : Text)
  | notDateText (index : Nat) (value : Text)
  | blankDate (index : Nat)
  | buttonFailed (index : Nat) (source : Text)
  | cardFailed (tab source : Text)
  | misconfigured (field message : Text)
  deriving DecidableEq

namespace ExtractionFailure

/-- The wording of a failure. -/
def message : ExtractionFailure → Text
  | malformedSelector selector reason =>
    "Invalid CSS selector: ".toList ++ selector ++ " - ".toList ++ reason
  | notDateText index value =>
    "Unsupported date value at index ".toList ++ Text.ofNat index ++ ": ".toList ++ value
  | blankDate index => "Empty date value at index ".toList ++ Text.ofNat index
  | buttonFailed index source =>
    "Tab button ".toList ++ Text.ofNat index ++ " failed: ".toList ++ source
  | cardFailed tab source =>
    "Tab card '".toList ++ tab ++ "' failed: ".toList ++ source
  | misconfigured _ message => "Configuration error: ".toList ++ message

/-- Only a malformed selector leaves the rest of the record intact. -/
def recordGoesOn : ExtractionFailure → Bool
  | malformedSelector _ _ => true
  | _ => false

/-- The message that a failure passes on, if it comes from the caller's own work. -/
def source? : ExtractionFailure → Option Text
  | buttonFailed _ source => some source
  | cardFailed _ source => some source
  | _ => none

end ExtractionFailure

end Playbill
