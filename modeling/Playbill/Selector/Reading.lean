import Playbill.Selector.Basic
import Playbill.Selector.Token

/-!
# Readings of token trees

* `SelectorFault`: why trees are no selector, and whether a message can say so.
* `SelectorReader.Reading`: a value with the trees after it, or a fault.
* `SelectorReader.refuse`: the fault of trees that should start differently.
* `SelectorReader.whole`: a value that has to be all there is.
-/

namespace Playbill

/-- The token a tree starts with. -/
def Css.Tree.token : Css.Tree → Css.Lexeme
  | .leaf token => token
  | .block start _ => start

/-- Whether a token can be named in a message.  A lone character and a bare address cannot. -/
def Css.Lexeme.hasWording : Css.Lexeme → Bool
  | .delim _ => false
  | .url => false
  | _ => true

/-- Why trees are no selector: a token stands where it may not, or something else is wrong, such as
a missing part or an unknown name. -/
inductive SelectorFault
  | unexpected (token : Css.Lexeme)
  | malformed
  deriving DecidableEq

/-- Whether a message can say what the fault is. -/
def SelectorFault.hasWording : SelectorFault → Bool
  | .unexpected token => token.hasWording
  | .malformed => true

namespace SelectorReader

open Css

/-- What was read and the trees after it, or why it could not be read. -/
abbrev Reading (α : Type) := Except SelectorFault (α × List Tree)

/-- Whether a tree is a blank. -/
def isSpace : Tree → Bool
  | .leaf .space => true
  | _ => false

/-- The trees without blanks at their start. -/
def skipSpace (ts : List Tree) : List Tree :=
  ts.dropWhile isSpace

/-- The fault of trees that should start differently: their first token is unexpected. -/
def refuse {α : Type} : List Tree → Except SelectorFault α
  | [] => .error .malformed
  | t :: _ => .error (.unexpected t.token)

/-- A value that has to be all of the trees; the first token after it, blanks aside, is unexpected.
-/
def whole {α : Type} (reading : Reading α) : Except SelectorFault α := do
  let (value, ts) ← reading
  match skipSpace ts with
  | [] => return value
  | ts => refuse ts

end SelectorReader

end Playbill
