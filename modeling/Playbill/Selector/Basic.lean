import Playbill.Document.Basic

/-!
# Selectors

Conditions on elements of a document.

* `Simple`: one condition; several conditions on one element make a compound.
* `Complex`: a compound, or a compound whose element stands in a relation to one that satisfies
  another selector.
* `SelectorList`: alternatives.
-/

namespace Playbill

/-- The relation between the element on the right and the one on the left. -/
inductive Combinator
  | descendant
  | child
  | nextSibling
  | laterSibling
  deriving DecidableEq

/-- How an attribute value is compared. -/
inductive AttrTest
  | equals
  | includes
  | dash
  | begins
  | ends
  | contains
  deriving DecidableEq

mutual

/-- A condition on one element.  A host is an element that carries a document of its own. -/
inductive Simple
  | any
  | tag (name : Text)
  | outsideNamespaces
  | id (value : Text)
  | className (value : Text)
  | hasAttr (name : Text)
  | attr (name : Text) (test : AttrTest) (value : Text) (ignoreCase : Bool)
  | nth (step start : Int) (ofType fromEnd : Bool)
  | only (ofType : Bool)
  | empty
  | root
  | scope
  | anchor
  | noneOf (alternatives : List Complex)
  | oneOf (alternatives : List Complex)
  | has (alternatives : List Complex)
  | host (alternatives : List Complex)

/-- A selector without alternatives. -/
inductive Complex
  | invalid
  | compound (conditions : List Simple)
  | related (left : Complex) (combinator : Combinator) (conditions : List Simple)

end

/-- Alternatives; an element is selected when it satisfies one of them. -/
abbrev SelectorList := List Complex

end Playbill
