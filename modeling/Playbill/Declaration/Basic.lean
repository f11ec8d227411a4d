import Playbill.Text.Basic

/-!
# Declarations

The pieces that say how a page is read: fields, dates, tables and tabs.

* `FieldDeclaration`: a field as a shorthand text or as selector and attribute.
* `DateSettings`: the formats of a date, its locale, and whether its year is kept.
* `TableLayout`, `GridOptions`: the window of a table and the filling of its cells.
* `TabLayout`: the selectors of tab buttons and tab cards.
-/

namespace Playbill

/-- A selector and an attribute, either of which may be missing. -/
structure FieldParts where
  selector : Option Text := none
  attrName : Option Text := none
  deriving DecidableEq

/-- A field declaration. -/
inductive FieldDeclaration
  | shorthand (text : Text)
  | parts (parts : FieldParts)
  deriving DecidableEq

/-- One text or a list of texts. -/
inductive OneOrMore
  | one (item : Text)
  | many (items : List Text)
  deriving DecidableEq

/-- The texts as a list. -/
def OneOrMore.toList : OneOrMore → List Text
  | .one item => [item]
  | .many items => items

/-- How dates are read. -/
structure DateSettings where
  format : OneOrMore := .one "YYYY-MM-DD"
  locale : Text := "en"
  preserveYear : Bool := false
  deriving DecidableEq

/-- The cells before the first row or column that counts. -/
structure HeaderOffset where
  offset : Nat := 0
  deriving DecidableEq

/-- The most rows and columns that count. -/
structure CellLimits where
  rowLimit : Option Nat := none
  columnLimit : Option Nat := none
  deriving DecidableEq

/-- The layout of a table. -/
structure TableLayout where
  headerRow : Option HeaderOffset := none
  headerColumn : Option HeaderOffset := none
  cells : Option CellLimits := none
  deriving DecidableEq

/-- What a cell of a grid holds: trimmed text or inner markup. -/
inductive CellMode
  | text
  | markup
  deriving DecidableEq

/-- How spanned positions are filled and what a cell holds. -/
structure GridOptions where
  duplicateRowspan : Bool := false
  duplicateColspan : Bool := false
  mode : CellMode := .text
  deriving DecidableEq

/-- The selector of tab buttons and the field that identifies a tab. -/
structure TabButtons where
  box : Text := []
  id : Option FieldDeclaration := none
  deriving DecidableEq

/-- The selector of tab cards. -/
structure TabCards where
  box : Text := []
  deriving DecidableEq

/-- The structure of a tabbed page. -/
structure TabLayout where
  buttons : TabButtons := {}
  cards : Option TabCards := none
  deriving DecidableEq

end Playbill
