import Playbill.Text.Basic

/-!
# Documents

A parsed document is a tree of elements, texts and comments.

* `Node`: a tree; `Node.ofParts` makes an element.
* `Element`: an element together with the way to it from the root of its document.
* `Element.parent?`, `Element.elementChildren`, `Element.descendants`: its surroundings.
* `Element.text`, `Element.directText`, `Element.attr?`: its content.
* `Element.span`: the value of a span attribute.
* `Element.rowsOfTable`, `Element.cellsOfRow`: the rows of a table and the cells of a row.
-/

namespace Playbill

/-- A node of a document: a text, a comment, or an element with its attributes in order. -/
inductive Node
  | text (content : Text)
  | comment (content : Text)
  | element (tag : Text) (attrs : List (Text × Text)) (children : List Node)

/-- Adds an attribute at the end; one of that name that is there keeps its place and gets the new
value. -/
def setAttr (attrs : List (Text × Text)) (attr : Text × Text) : List (Text × Text) :=
  if attrs.any fun other => other.1 == attr.1 then
    attrs.map fun other => if other.1 == attr.1 then attr else other
  else attrs ++ [attr]

/-- An element with attributes written in order, of which a later one replaces an earlier one of the
same name. -/
def Node.ofParts (tag : Text) (attrs : List (Text × Text)) (children : List Node) : Node :=
  .element tag (attrs.foldl setAttr []) children

/-- One step of the way to an element: its parent, and its position among the parent's children. -/
structure Crumb where
  position : Nat
  tag : Text
  attrs : List (Text × Text)
  children : List Node

/-- An element and the way to it; the nearest ancestor comes first. -/
structure Element where
  tag : Text
  attrs : List (Text × Text)
  children : List Node
  above : List Crumb

mutual

/-- All text below a node in document order. -/
def Node.allText : Node → Text
  | .text content => content
  | .comment _ => []
  | .element _ _ children => Node.allTexts children

/-- All text below some nodes in document order. -/
def Node.allTexts : List Node → Text
  | [] => []
  | node :: nodes => node.allText ++ Node.allTexts nodes

end

mutual

/-- The elements of a node reached by some way, itself first, in document order. -/
def Node.elements (above : List Crumb) : Node → List Element
  | .element tag attrs children =>
    ⟨tag, attrs, children, above⟩ :: Node.elementsFrom tag attrs children above 0 children
  | _ => []

/-- The elements below the children of an element from a position on, in document order. -/
def Node.elementsFrom (tag : Text) (attrs : List (Text × Text)) (children : List Node)
    (above : List Crumb) (position : Nat) : List Node → List Element
  | [] => []
  | node :: nodes =>
    node.elements (⟨position, tag, attrs, children⟩ :: above) ++
      Node.elementsFrom tag attrs children above (position + 1) nodes

end

namespace Element

/-- The element at the root of a document. -/
def ofRoot? : Node → Option Element
  | .element tag attrs children => some ⟨tag, attrs, children, []⟩
  | _ => none

/-- The positions among all children that lead from the root to the element. -/
def path (e : Element) : List Nat :=
  (e.above.map (·.position)).reverse

/-- The parent element; the root has none. -/
def parent? (e : Element) : Option Element :=
  match e.above with
  | crumb :: above => some ⟨crumb.tag, crumb.attrs, crumb.children, above⟩
  | [] => none

/-- The ancestors on some way up, the nearest first. -/
def ancestorsOf : List Crumb → List Element
  | [] => []
  | crumb :: above => ⟨crumb.tag, crumb.attrs, crumb.children, above⟩ :: ancestorsOf above

/-- The ancestors, the nearest first. -/
def ancestors (e : Element) : List Element :=
  ancestorsOf e.above

/-- The child at a position, if it is an element. -/
def child? (e : Element) (position : Nat) : Option Element :=
  match e.children[position]? with
  | some (.element tag attrs children) =>
    some ⟨tag, attrs, children, ⟨position, e.tag, e.attrs, e.children⟩ :: e.above⟩
  | _ => none

/-- The children that are elements. -/
def elementChildren (e : Element) : List Element :=
  (List.range e.children.length).filterMap e.child?

/-- The element that positions lead to. -/
def descend? (e : Element) : List Nat → Option Element
  | [] => some e
  | position :: path => (e.child? position).bind fun c => c.descend? path

/-- All elements below the element in document order. -/
def descendants (e : Element) : List Element :=
  Node.elementsFrom e.tag e.attrs e.children e.above 0 e.children

/-- The elements with the same parent, itself included. -/
def siblings (e : Element) : List Element :=
  match e.parent? with
  | some parent => parent.elementChildren
  | none => [e]

/-- The position among the parent's children; the root stands at 0. -/
def position (e : Element) : Nat :=
  match e.above with
  | crumb :: _ => crumb.position
  | [] => 0

/-- The siblings before the element. -/
def siblingsBefore (e : Element) : List Element :=
  e.siblings.filter (·.position < e.position)

/-- The siblings after the element. -/
def siblingsAfter (e : Element) : List Element :=
  e.siblings.filter (e.position < ·.position)

/-- The text of the element and of everything below it. -/
def text (e : Element) : Text :=
  Node.allTexts e.children

/-- The text of a node that is a text itself. -/
def nodeText : Node → Text
  | .text content => content
  | _ => []

/-- The text directly inside the element. -/
def directText (e : Element) : Text :=
  e.children.flatMap nodeText

/-- The value of an attribute. -/
def attr? (e : Element) (name : Text) : Option Text :=
  (e.attrs.find? fun attr => attr.1 == name).map (·.2)

/-- The largest column span that counts. -/
def colspanLimit : Nat := 1000

/-- The largest row span that counts. -/
def rowspanLimit : Nat := 65534

/-- The value of a span attribute: at least 1, which also stands for a missing or unreadable one,
and at most the limit of its direction. -/
def span (e : Element) (name : Text) : Nat :=
  let written := ((e.attr? name).bind fun raw => Text.unsigned? (Text.trim raw)).getD 1
  let most := if name == ("colspan" : Text) then colspanLimit else rowspanLimit
  min (max written 1) most

/-- Whether the element is a table row. -/
def isRow (e : Element) : Bool :=
  e.tag == ("tr" : Text)

/-- Whether the element groups table rows. -/
def isRowGroup (e : Element) : Bool :=
  e.tag == ("thead" : Text) || e.tag == ("tbody" : Text) || e.tag == ("tfoot" : Text)

/-- Whether the element is a table cell. -/
def isCell (e : Element) : Bool :=
  e.tag == ("td" : Text) || e.tag == ("th" : Text)

/-- The rows of a table: its child rows and those of its row groups. -/
def rowsOfTable (e : Element) : List Element :=
  e.elementChildren.flatMap fun child =>
    if child.isRow then [child]
    else if child.isRowGroup then child.elementChildren.filter (·.isRow)
    else []

/-- The cells of a row. -/
def cellsOfRow (e : Element) : List Element :=
  e.elementChildren.filter (·.isCell)

end Element

end Playbill
