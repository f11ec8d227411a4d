import Playbill.Selector.Basic

/-!
# Matching selectors

* `AttrTest.holds`: comparisons of attribute values.
* `Combinator.lefts`: the elements that may stand on the left of a combinator.
* `Simple.holds`, `Complex.reaches`: whether elements satisfy a selector.
* `Element.select`: the elements below an element that a selector list selects.
-/

namespace Playbill

/-- Whether one text stands somewhere in another. -/
def Text.holds (part : Text) : Text → Bool
  | [] => part.isEmpty
  | c :: rest => part.isPrefixOf (c :: rest) || Text.holds part rest

/-- The blanks that separate the words of an attribute value, the class attribute excepted. -/
def isAttrSpace (c : Char) : Bool :=
  c == ' ' || c == '\t' || c == '\n' || c == '\r' || c.toNat == 0x0C

/-- Whether an attribute value passes the comparison with a given one. -/
def AttrTest.holds (test : AttrTest) (actual wanted : Text) : Bool :=
  match test with
  | .equals => actual == wanted
  | .includes => (Text.piecesBy isAttrSpace actual).contains wanted
  | .dash => actual == wanted || (wanted ++ ['-']).isPrefixOf actual
  | .begins => wanted.isPrefixOf actual
  | .ends => wanted.isSuffixOf actual
  | .contains => Text.holds wanted actual

/-- The elements that may stand on the left of a combinator when the given one stands on its right.
-/
def Combinator.lefts (combinator : Combinator) (e : Element) : List Element :=
  match combinator with
  | .descendant => e.ancestors
  | .child => e.parent?.toList
  | .nextSibling => e.siblingsBefore.getLast?.toList
  | .laterSibling => e.siblingsBefore

/-- Whether `index` is `step * n + start` for some natural number n, in 32-bit arithmetic. -/
def nthHolds (step start : Int) (index : Nat) : Bool :=
  let distance := (index : Int) - start
  if distance < shortLimit then
    if step = 0 then distance == 0
    else 0 ≤ distance.tdiv step && step * distance.tdiv step == distance
  else false

namespace Element

/-- The siblings, itself included, that count for a position. -/
def counted (e : Element) (ofType : Bool) : List Element :=
  e.siblings.filter fun s => !ofType || s.tag == e.tag

/-- The position among the siblings that count, from 1, from either end. -/
def index (e : Element) (ofType fromEnd : Bool) : Nat :=
  ((e.counted ofType).filter fun s =>
    if fromEnd then e.position ≤ s.position else s.position ≤ e.position).length

/-- The words of the class attribute, between blanks of any script. -/
def classes (e : Element) : List Text :=
  Text.words ((e.attr? "class").getD [])

/-- Whether the element has neither a child element nor a text inside, be it empty. -/
def isEmpty (e : Element) : Bool :=
  e.children.all fun child =>
    match child with
    | .comment _ => true
    | _ => false

/-- Whether some attribute of a name passes a comparison. -/
def attrHolds (e : Element) (name : Text) (test : AttrTest) (value : Text) (ignoreCase : Bool) :
    Bool :=
  e.attrs.any fun attr => attr.1 == name &&
    if ignoreCase then test.holds (Text.asciiLower attr.2) (Text.asciiLower value)
    else test.holds attr.2 value

/-- The elements below an element and below its later siblings, these included. -/
def surroundings (e : Element) : List Element :=
  e.descendants ++ e.siblingsAfter.flatMap fun s => s :: s.descendants

end Element

/-- Elements without repetition; the way from the root tells elements apart. -/
def distinctElements (es : List Element) : List Element :=
  es.eraseDupsBy fun d e => d.path == e.path

mutual

/-- Whether an element satisfies a condition.  `scope` is the way to the element a search started
from, `anchor` the way to the element that a relative list is about.  No element is a host. -/
def Simple.holds (scope anchor : List Nat) : Simple → Element → Bool
  | .any, _ => true
  | .tag name, e => e.tag == name
  | .outsideNamespaces, _ => false
  | .id value, e => e.attr? "id" == some value
  | .className value, e => e.classes.contains value
  | .hasAttr name, e => e.attrs.any fun attr => attr.1 == name
  | .attr name test value ignoreCase, e => e.attrHolds name test value ignoreCase
  | .nth step start ofType fromEnd, e => nthHolds step start (e.index ofType fromEnd)
  | .only ofType, e => (e.counted ofType).length == 1
  | .empty, e => e.isEmpty
  | .root, e => e.above.isEmpty
  | .scope, e => e.path == scope
  | .anchor, e => e.path == anchor
  | .noneOf alternatives, e => !Complex.anyReaches scope anchor alternatives [e]
  | .oneOf alternatives, e => Complex.anyReaches scope anchor alternatives [e]
  | .has alternatives, e => Complex.anyReaches scope e.path alternatives e.surroundings
  | .host _, _ => false

/-- Whether an element satisfies all of some conditions. -/
def Simple.allHold (scope anchor : List Nat) : List Simple → Element → Bool
  | [], _ => true
  | condition :: conditions, e =>
    condition.holds scope anchor e && Simple.allHold scope anchor conditions e

/-- Whether one of some elements satisfies a selector. -/
def Complex.reaches (scope anchor : List Nat) : Complex → List Element → Bool
  | .invalid, _ => false
  | .compound conditions, es => es.any (Simple.allHold scope anchor conditions)
  | .related left combinator conditions, es =>
    let rights := es.filter (Simple.allHold scope anchor conditions)
    left.reaches scope anchor (distinctElements (rights.flatMap combinator.lefts))

/-- Whether one of some elements satisfies one of some selectors. -/
def Complex.anyReaches (scope anchor : List Nat) : List Complex → List Element → Bool
  | [], _ => false
  | selector :: selectors, es =>
    selector.reaches scope anchor es || Complex.anyReaches scope anchor selectors es

end

/-- The elements below an element that satisfy one of some selectors, in document order. -/
def Element.select (e : Element) (selectors : SelectorList) : List Element :=
  e.descendants.filter fun d => Complex.anyReaches e.path e.path selectors [d]

end Playbill
