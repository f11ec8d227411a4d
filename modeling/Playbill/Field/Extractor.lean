import Playbill.Document.Markup
import Playbill.Field.Shorthand
import Playbill.Selector.Checked
import Playbill.Template.Basic
import Playbill.Text.Quoted

/-!
# Extracting values

A field declaration is compiled once and then run against elements of a document.

* `FieldDefinition`: the shapes of a declaration; `Extractor`: its compiled form.
* `Extractor.values`: one value for each matched element.
* `Extractor.value`, `Extractor.first`: all values as one, and the first.
* `FieldDefinition.text`, `Extractor.text`: how they are shown.
-/

namespace Playbill

/-- Turns the text of an element into the value of a field. -/
abbrev ValueMap := Text → Context → Recording Json

/-- An extraction that is not declared but programmed. -/
abbrev CustomExtraction := Element → Context → Recording Json

/-- A field declaration. -/
inductive FieldDefinition
  | empty
  | custom (run : CustomExtraction)
  | shorthand (text : Text)
  | parts (parts : FieldParts) (map : Option ValueMap)

/-- The definition of a declared field. -/
def FieldDefinition.ofDeclaration : FieldDeclaration → FieldDefinition
  | .shorthand text => .shorthand text
  | .parts s => .parts s none

/-- What is taken from a matched element. -/
inductive AttrTarget
  | text
  | markup
  | directText
  | named (name : Text)
  deriving DecidableEq

/-- The selector that stands for the element itself. -/
def itself : Text := "_self"

/-- The attribute name that stands for the inner markup. -/
def markupAttr : Text := "_html"

/-- The attribute name that stands for the text directly inside. -/
def directTextAttr : Text := "_ownText"

/-- The target of an attribute name; without one it is the text. -/
def AttrTarget.ofName : Option Text → AttrTarget
  | none => .text
  | some name =>
    if name == markupAttr then .markup
    else if name == directTextAttr then .directText
    else .named name

/-- The attribute name of a target. -/
def AttrTarget.name? : AttrTarget → Option Text
  | .text => none
  | .markup => some markupAttr
  | .directText => some directTextAttr
  | .named name => some name

/-- What a target takes from an element; an attribute may be missing. -/
def AttrTarget.take? (target : AttrTarget) (e : Element) : Option Text :=
  match target with
  | .text => some e.text
  | .markup => some e.markup
  | .directText => some e.directText
  | .named name => e.attr? name

/-- Selectors with their placeholders, what to take, and how to map it; without selectors the value
comes from the element itself. -/
structure Selection where
  selectors : List Text
  target : AttrTarget
  map : Option ValueMap

/-- A compiled field declaration. -/
inductive Extractor
  | empty
  | custom (run : CustomExtraction)
  | select (selection : Selection)

/-- The parts of a selector between commas that are not blank. -/
def selectorParts (selector : Text) : List Text :=
  ((Text.pieces ',' selector).map Text.trim).filter (!·.isEmpty)

/-- The compiled form of a selector and an attribute. -/
def Selection.ofParts (s : FieldParts) (map : Option ValueMap) : Selection where
  selectors := (s.selector.map selectorParts).getD []
  target := AttrTarget.ofName s.attrName
  map := map

/-- The compiled form of a declaration. -/
def Extractor.ofDefinition : FieldDefinition → Extractor
  | .empty => .empty
  | .custom run => .custom run
  | .shorthand text => .select (Selection.ofParts (FieldParts.ofShorthand text) none)
  | .parts s map => .select (Selection.ofParts s map)

/-- The compiled form of a field that may be undeclared. -/
def Extractor.ofDeclaration : Option FieldDeclaration → Extractor
  | some config => .ofDefinition (.ofDeclaration config)
  | none => .empty

/-- An extracted value in normal form: blanks of a text are collapsed, and a blank text is null. -/
def Json.normalForm : Json → Json
  | .string t => if (Text.collapse t).isEmpty then .null else .string (Text.collapse t)
  | value => value

namespace Selection

/-- The elements that one selector part leads to. -/
def partElements (c : Context) (e : Element) (part : Text) : Extraction (List Element) := do
  let resolved := Template.resolve c part
  if resolved == itself then return [e]
  else
    match ← readSelector c resolved with
    | some selectors => return e.select selectors
    | none => return []

/-- The elements that values are taken from, in the order of the parts. -/
def elements (s : Selection) (c : Context) (e : Element) : Extraction (List Element) := do
  if s.selectors.isEmpty then return [e]
  else return (← s.selectors.mapM (partElements c e)).flatten

/-- The value of an element; a missing attribute gives null. -/
def value (s : Selection) (c : Context) (e : Element) : Recording Json :=
  match s.target.take? e with
  | none => return .null
  | some raw =>
    match s.map with
    | some f => return Json.normalForm (← f raw c)
    | none => return Json.normalForm (.string (Text.trim raw))

/-- One value for each element, in order. -/
def values (s : Selection) (c : Context) (e : Element) : Extraction (List Json) := do
  let elements ← s.elements c e
  return ← (elements.mapM (s.value c) : Recording (List Json))

end Selection

namespace Extractor

/-- The selector parts of a declaration. -/
def selectors : Extractor → List Text
  | .select s => s.selectors
  | _ => []

/-- The attribute name of a declaration. -/
def attrName? : Extractor → Option Text
  | .select s => s.target.name?
  | _ => none

/-- The values of a custom extraction: an array is spread. -/
def spread : Json → List Json
  | .array items => items.map Json.normalForm
  | value => [Json.normalForm value]

/-- One value for each matched element. -/
def values (g : Extractor) (c : Context) (e : Element) : Extraction (List Json) :=
  match g with
  | .empty => return [.null]
  | .custom run => return spread (← (run e c : Recording Json))
  | .select s => s.values c e

/-- Some values as one: null for none, and an array for more than one. -/
def combine : List Json → Json
  | [] => .null
  | [value] => value
  | values => .array values

/-- All values as one. -/
def value (g : Extractor) (c : Context) (e : Element) : Extraction Json :=
  return combine (← g.values c e)

/-- The first value, or null. -/
def first (g : Extractor) (c : Context) (e : Element) : Extraction Json :=
  return (← g.values c e).headD .null

end Extractor

/-- How an optional text is shown. -/
def shownOption : Option Text → Text
  | some t => "Some(".toList ++ Quoted.encode t ++ [')']
  | none => "None"

/-- A name with its fields between braces, as records are shown. -/
def shownRecord (name : Text) (fields : List (Text × Text)) : Text :=
  name ++ [' ', Char.ofNat 0x7B, ' '] ++
    Text.joinWith ", " (fields.map fun (field, value) => field ++ ": ".toList ++ value) ++
    [' ', Char.ofNat 0x7D]

/-- How a declaration is shown. -/
def FieldDefinition.text : FieldDefinition → Text
  | .empty => "Empty"
  | .custom _ => "Custom(..)"
  | .shorthand text => "Shorthand(".toList ++ Quoted.encode text ++ [')']
  | .parts s map => shownRecord "Spec"
    [("selector", shownOption s.selector), ("attribute", shownOption s.attrName),
      ("mapper", shownOption (map.map fun _ => ['.', '.']))]

/-- How a target is shown. -/
def AttrTarget.shown : AttrTarget → Text
  | .text => "Text"
  | .markup => "InnerHtml"
  | .directText => "OwnText"
  | .named name => "Named(".toList ++ Quoted.encode name ++ [')']

/-- How a compiled declaration is shown. -/
def Extractor.text : Extractor → Text
  | .empty => "ValueGrabber(empty)"
  | .custom _ => "ValueGrabber(custom)"
  | .select s => shownRecord "ValueGrabber"
    [("selectors", ['['] ++ Text.joinWith ", " (s.selectors.map Quoted.encode) ++ [']']),
      ("attribute", s.target.shown),
      ("mapped", if s.map.isSome then "true" else "false")]

end Playbill
