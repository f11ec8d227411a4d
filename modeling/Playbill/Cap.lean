/-!
# Caps

* `Cap`: an upper bound on every iteration.
* `Cap.clamp`: a configured limit under a cap.
-/

namespace Playbill

/-- An upper bound on every iteration; `none` is no bound. -/
structure Cap where
  limit : Option Nat
  deriving DecidableEq

/-- The smaller of a configured limit and the cap, whichever are set. -/
def Cap.clamp (cap : Cap) (configured : Option Nat) : Option Nat :=
  match configured, cap.limit with
  | some limit, some bound => some (min limit bound)
  | some limit, none => some limit
  | none, bound => bound

end Playbill
