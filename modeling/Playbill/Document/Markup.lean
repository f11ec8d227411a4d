import Playbill.Document.Basic

/-!
# Markup

The content of an element written as HTML.

* `Markup.escapeText`, `Markup.escapeAttr`: escaped characters.
* `Markup.ofNode`: a node; elements without content get no end tag, and the tags of elements below
  them are not written.
* `Element.markup`: the children of an element.
-/

namespace Playbill.Markup

/-- A character of a text. -/
def escapeText (c : Char) : Text :=
  if c == '&' then "&amp;"
  else if c == '<' then "&lt;"
  else if c == '>' then "&gt;"
  else if c.toNat == 0xA0 then "&nbsp;"
  else [c]

/-- A character of an attribute value. -/
def escapeAttr (c : Char) : Text :=
  if c == '&' then "&amp;"
  else if c == '"' then "&quot;"
  else if c.toNat == 0xA0 then "&nbsp;"
  else [c]

/-- The elements that have no end tag. -/
def voidTags : List Text :=
  Text.words "area base basefont bgsound br col embed frame hr img input keygen link meta param
    source track wbr".toList

/-- The elements whose text is written as it is. -/
def rawTags : List Text :=
  Text.words "style script xmp iframe noembed noframes plaintext".toList

/-- What surrounds a node while it is written: whether its text is written as it is, and whether its
tags are left out. -/
structure Surrounding where
  raw : Bool := false
  hidesTags : Bool := false
  deriving DecidableEq

/-- The surrounding that an element makes for its children.  Tags stay out at every depth below an
element that has no end tag. -/
def Surrounding.inside (surrounding : Surrounding) (tag : Text) : Surrounding where
  raw := rawTags.contains tag
  hidesTags := surrounding.hidesTags || voidTags.contains tag

/-- An attribute in a start tag. -/
def attr (a : Text × Text) : Text :=
  [' '] ++ a.1 ++ ['=', '"'] ++ a.2.flatMap escapeAttr ++ ['"']

mutual

/-- A node in a surrounding. -/
def ofNode (surrounding : Surrounding) : Node → Text
  | .text content => if surrounding.raw then content else content.flatMap escapeText
  | .comment content => "<!--".toList ++ content ++ "-->".toList
  | .element tag attrs children =>
    let inner := ofNodes (surrounding.inside tag) children
    if surrounding.hidesTags then inner
    else
      ['<'] ++ tag ++ attrs.flatMap attr ++ ['>'] ++ inner ++
        (if voidTags.contains tag then [] else ['<', '/'] ++ tag ++ ['>'])

/-- Nodes in a surrounding. -/
def ofNodes (surrounding : Surrounding) : List Node → Text
  | [] => []
  | node :: nodes => ofNode surrounding node ++ ofNodes surrounding nodes

end

end Playbill.Markup

namespace Playbill

/-- The children of an element written as HTML. -/
def Element.markup (e : Element) : Text :=
  Markup.ofNodes {} e.children

end Playbill
