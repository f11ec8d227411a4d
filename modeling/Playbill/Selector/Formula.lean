import Playbill.Selector.Reading

/-!
# Formulas of positions

The formula of a positional condition, such as `2n+1`, `-n-3`, `even` or `4`: a step and a start.

* `SelectorReader.formula`: step and start at the start of some trees.
-/

namespace Playbill.SelectorReader

open Css

/-- The part `-12` of a name such as `n-12`. -/
def negativeDigits? (t : Text) : Option Int :=
  match t with
  | n :: '-' :: digits =>
    if asciiLowerChar n == 'n' then
      (Text.natOfDigits? digits).map fun value => clamp32 (-(value : Int))
    else none
  | _ => none

/-- An unsigned number. -/
def unsignedNumber (ts : List Tree) : Reading Int :=
  match skipSpace ts with
  | .leaf (.number false (some b)) :: ts => .ok (b, ts)
  | ts => refuse ts

/-- The start after a step and a sign. -/
def startAfterSign (step sign : Int) (ts : List Tree) : Reading (Int × Int) :=
  (unsignedNumber ts).map fun (b, ts) => ((step, sign * b), ts)

/-- The start after a step: a signed number, or a sign and a number, or nothing. -/
def startAfter (step : Int) (ts : List Tree) : Reading (Int × Int) :=
  match skipSpace ts with
  | .leaf (.delim '+') :: ts => startAfterSign step 1 ts
  | .leaf (.delim '-') :: ts => startAfterSign step (-1) ts
  | .leaf (.number true (some b)) :: ts => .ok ((step, b), ts)
  | _ => .ok ((step, 0), ts)

/-- A step given by a name of the letter n with what follows the letter. -/
def stepOfName (step : Int) (name : Text) (ts : List Tree) : Reading (Int × Int) :=
  let lowered := Text.asciiLower name
  if lowered == ['n'] then startAfter step ts
  else if lowered == ['n', '-'] then startAfterSign step (-1) ts
  else
    match negativeDigits? name with
    | some b => .ok ((step, b), ts)
    | none => .error (.unexpected (.ident name))

/-- Step and start of a formula. -/
def formula (ts : List Tree) : Reading (Int × Int) :=
  match skipSpace ts with
  | .leaf (.number _ (some b)) :: ts => .ok ((0, b), ts)
  | .leaf (.dimension _ (some a) unit) :: ts => stepOfName a unit ts
  | .leaf (.ident name) :: ts =>
    if Text.asciiLower name == ("even" : Text) then .ok ((2, 0), ts)
    else if Text.asciiLower name == ("odd" : Text) then .ok ((2, 1), ts)
    else
      match name with
      | '-' :: name => stepOfName (-1) name ts
      | _ => stepOfName 1 name ts
  | .leaf (.delim '+') :: .leaf (.ident name) :: ts => stepOfName 1 name ts
  | .leaf (.delim '+') :: ts => refuse ts
  | ts => refuse ts

end Playbill.SelectorReader
