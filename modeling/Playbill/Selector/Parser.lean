import Playbill.Selector.Formula

/-!
# Reading selectors

A selector is read from token trees.

* `SelectorReader.simple`, `SelectorReader.complex`: a condition and a selector at the start of some
  trees.
* `SelectorReader.alternative`: a selector that is all of some trees; a forgiving list takes a
  faulty one as one that nothing satisfies.
* `SelectorReader.list`: the alternatives of a list.
* `SelectorList.read`: the selector list of a text.
-/

namespace Playbill.SelectorReader

open Css

/-- Whether a tree is a comma. -/
def isComma : Tree → Bool
  | .leaf .comma => true
  | _ => false

/-- A combinator at the start of some trees, blanks alone being one, and the trees after it. -/
def combinator? : Bool → List Tree → Option (Combinator × List Tree)
  | _, [] => none
  | _, .leaf .space :: ts => combinator? true ts
  | _, .leaf (.delim '>') :: ts => some (.child, ts)
  | _, .leaf (.delim '+') :: ts => some (.nextSibling, ts)
  | _, .leaf (.delim '~') :: ts => some (.laterSibling, ts)
  | sawSpace, ts => if sawSpace then some (.descendant, ts) else none

/-- The name after a namespace bar. -/
def nameAfterBar (conditions : List Simple) : List Tree → Reading (List Simple)
  | .leaf (.delim '*') :: ts => .ok (conditions ++ [.any], ts)
  | .leaf (.ident name) :: ts => .ok (conditions ++ [.tag (Text.asciiLower name)], ts)
  | _ => .error .malformed

/-- The element name at the start of a compound, if there is one.  No namespace has a name, so a
name before a bar is an error. -/
def typeName : List Tree → Reading (List Simple)
  | .leaf (.ident _) :: .leaf (.delim '|') :: _ => .error .malformed
  | .leaf (.ident name) :: ts => .ok ([.tag (Text.asciiLower name)], ts)
  | .leaf (.delim '*') :: .leaf (.delim '|') :: ts => nameAfterBar [] ts
  | .leaf (.delim '*') :: ts => .ok ([.any], ts)
  | .leaf (.delim '|') :: ts => nameAfterBar [.outsideNamespaces] ts
  | ts => .ok ([], ts)

/-- The attributes whose values are compared without regard to ASCII case unless a flag says
otherwise. -/
def caselessAttrs : List Text :=
  Text.words "accept accept-charset align alink axis bgcolor charset checked clear codetype color
    compact declare defer dir direction disabled enctype face frame hreflang http-equiv lang
    language link media method multiple nohref noresize noshade nowrap readonly rel rev rules
    scope scrolling selected shape target text type valign valuetype vlink".toList

/-- The name of an attribute and whether any namespace will do. -/
def attrName : List Tree → Reading (Text × Bool)
  | .leaf (.ident _) :: .leaf (.delim '|') :: _ => .error .malformed
  | .leaf (.ident name) :: ts => .ok ((name, false), ts)
  | .leaf (.delim '*') :: .leaf (.delim '|') :: .leaf (.ident name) :: ts => .ok ((name, true), ts)
  | .leaf (.delim '|') :: .leaf (.ident name) :: ts => .ok ((name, false), ts)
  | _ => .error .malformed

/-- The comparison that a token stands for. -/
def attrTest? : Lexeme → Option AttrTest
  | .delim '=' => some .equals
  | .includeMatch => some .includes
  | .dashMatch => some .dash
  | .beginMatch => some .begins
  | .endMatch => some .ends
  | .substringMatch => some .contains
  | _ => none

/-- A name or a quoted string. -/
def attrValue : List Tree → Reading Text
  | .leaf (.ident value) :: ts => .ok (value, ts)
  | .leaf (.string value) :: ts => .ok (value, ts)
  | _ => .error .malformed

/-- Whether ASCII case is ignored, by the flag at the end of an attribute condition. -/
def caseFlag (byDefault : Bool) (ts : List Tree) : Reading Bool :=
  match skipSpace ts with
  | [] => .ok (byDefault, [])
  | .leaf (.ident flag) :: ts =>
    if Text.asciiLower flag == ['i'] then .ok (true, ts)
    else if Text.asciiLower flag == ['s'] then .ok (false, ts)
    else .error (.unexpected (.ident flag))
  | ts => refuse ts

/-- The condition between square brackets. -/
def attrCondition (ts : List Tree) : Except SelectorFault (Simple × List Tree) := do
  let ((name, anyNamespace), ts) ← attrName (skipSpace ts)
  let name := Text.asciiLower name
  match skipSpace ts with
  | [] => return (.hasAttr name, [])
  | t :: ts =>
    match attrTest? t.token with
    | none => .error .malformed
    | some test =>
      let (value, ts) ← attrValue (skipSpace ts)
      let (ignoreCase, ts) ← caseFlag (!anyNamespace && caselessAttrs.contains name) ts
      return (.attr name test value ignoreCase, ts)

/-- The condition of a name after a colon. -/
def pseudoClass (name : Text) : Except SelectorFault Simple :=
  let conditions : List (Text × Simple) :=
    [("first-child", .nth 0 1 false false), ("last-child", .nth 0 1 false true),
      ("only-child", .only false), ("root", .root), ("empty", .empty), ("scope", .scope),
      ("first-of-type", .nth 0 1 true false), ("last-of-type", .nth 0 1 true true),
      ("only-of-type", .only true)]
  match conditions.find? fun condition => condition.1 == Text.asciiLower name with
  | some condition => .ok condition.2
  | none => .error .malformed

/-- What a list of alternatives is read for; a single one has no commas. -/
inductive ListKind
  | plain
  | forgiving
  | relative
  | single
  deriving DecidableEq

/-- What an enclosing condition forbids: a relative list inside another one, and combinators inside
the argument of a host. -/
structure Enclosure where
  inRelative : Bool := false
  inHost : Bool := false

/-- A reader of nested lists. -/
abbrev ListReader := ListKind → Enclosure → List Tree → Except SelectorFault SelectorList

/-- The condition of a function after a colon. -/
def pseudoFunction (nested : ListReader) (around : Enclosure) (name : Text) (content : List Tree) :
    Except SelectorFault Simple := do
  let name := Text.asciiLower name
  if name == ("nth-child" : Text) then
    let (step, start) ← whole (formula content)
    return .nth step start false false
  else if name == ("nth-last-child" : Text) then
    let (step, start) ← whole (formula content)
    return .nth step start false true
  else if name == ("nth-of-type" : Text) then
    let (step, start) ← whole (formula content)
    return .nth step start true false
  else if name == ("nth-last-of-type" : Text) then
    let (step, start) ← whole (formula content)
    return .nth step start true true
  else if name == ("is" : Text) || name == ("where" : Text) then
    return .oneOf (← nested .forgiving around content)
  else if name == ("not" : Text) then
    return .noneOf (← nested .plain around content)
  else if name == ("has" : Text) && !around.inRelative then
    return .has (← nested .relative { around with inRelative := true } content)
  else if name == ("host" : Text) then
    return .host (← nested .single { around with inHost := true } content)
  else .error .malformed

/-- A condition that was found in front of some trees. -/
def found (condition : Except SelectorFault Simple) (ts : List Tree) : Reading (Option Simple) :=
  condition.map fun condition => (some condition, ts)

/-- A condition at the start of some trees, if one starts there. -/
def simple (nested : ListReader) (around : Enclosure) : List Tree → Reading (Option Simple)
  | .leaf (.idHash value) :: ts => .ok (some (.id value), ts)
  | .leaf (.delim '.') :: .leaf (.ident value) :: ts => .ok (some (.className value), ts)
  | .leaf (.delim '.') :: _ => .error .malformed
  | .block (.opening .square) content :: ts => found (whole (attrCondition content)) ts
  | .leaf .colon :: .leaf .colon :: .leaf (.ident _) :: _ => .error .malformed
  | .leaf .colon :: .leaf .colon :: .block (.function _) _ :: _ => .error .malformed
  | .leaf .colon :: .leaf .colon :: ts => refuse ts
  | .leaf .colon :: .leaf (.ident name) :: ts => found (pseudoClass name) ts
  | .leaf .colon :: .block (.function name) content :: ts =>
    found (pseudoFunction nested around name content) ts
  | .leaf .colon :: ts => refuse ts
  | ts => .ok (none, ts)

/-- All conditions at the start of some trees, no more than `fuel`. -/
def simples (nested : ListReader) (around : Enclosure) :
    Nat → List Tree → Except SelectorFault (List Simple × List Tree)
  | 0, ts => .ok ([], ts)
  | fuel + 1, ts => do
    match ← simple nested around ts with
    | (none, ts) => return ([], ts)
    | (some condition, ts) =>
      let (conditions, ts) ← simples nested around fuel ts
      return (condition :: conditions, ts)

/-- A selector at the start of some trees, of no more than `fuel` compounds; `left` is what was read
before it. -/
def complexFrom (nested : ListReader) (around : Enclosure) :
    Nat → Option (Complex × Combinator) → List Tree → Except SelectorFault (Complex × List Tree)
  | 0, _, _ => .error .malformed
  | fuel + 1, left, ts => do
    let (name, ts) ← typeName (skipSpace ts)
    let (conditions, ts) ← simples nested around ts.length ts
    let conditions := name ++ conditions
    if conditions.isEmpty then .error .malformed
    else
      let selector : Complex := match left with
        | some (left, combinator) => .related left combinator conditions
        | none => .compound conditions
      match combinator? false ts with
      | none => return (selector, ts)
      | some (combinator, ts) =>
        if around.inHost then .error .malformed
        else complexFrom nested around fuel (some (selector, combinator)) ts

/-- A selector at the start of some trees.  A relative one starts at the element that the list is
about. -/
def complex (nested : ListReader) (kind : ListKind) (around : Enclosure) (ts : List Tree) :
    Reading Complex :=
  let ts := skipSpace ts
  match kind with
  | .relative =>
    let (combinator, ts) := (combinator? false ts).getD (.descendant, ts)
    complexFrom nested around (ts.length + 1) (some (.compound [.anchor], combinator)) ts
  | _ => complexFrom nested around (ts.length + 1) none ts

/-- One alternative of a list, which has to be all of its trees; a forgiving list takes a faulty one
as one that nothing satisfies. -/
def alternative (nested : ListReader) (kind : ListKind) (around : Enclosure) (ts : List Tree) :
    Except SelectorFault Complex :=
  match kind, whole (complex nested kind around ts) with
  | .forgiving, .error _ => .ok .invalid
  | _, selector => selector

/-- The stretches of trees between commas. -/
def splitAtCommas : List Tree → List (List Tree)
  | [] => [[]]
  | t :: ts =>
    if isComma t then [] :: splitAtCommas ts
    else
      match splitAtCommas ts with
      | [] => [[t]]
      | stretch :: stretches => (t :: stretch) :: stretches

/-- The alternatives of a list with blocks nested no deeper than the first argument. -/
def list : Nat → ListReader
  | 0, _, _, _ => .error .malformed
  | depth + 1, kind, around, ts =>
    let stretches := if kind = .single then [ts] else splitAtCommas ts
    stretches.mapM (alternative (list depth) kind around)

end Playbill.SelectorReader

namespace Playbill

/-- The selector list that a text stands for, or why it stands for none. -/
def SelectorList.read (t : Text) : Except SelectorFault SelectorList :=
  SelectorReader.list (t.length + 1) .plain {} (Css.trees t)

end Playbill
