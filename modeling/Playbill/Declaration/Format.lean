import Playbill.Cap
import Playbill.Context.Warning
import Playbill.Declaration.Basic
import Playbill.Json.Decoder

/-!
# Declarations as JSON

For every kind of declaration a decoder and an encoder.  Keys are written in camel case.

* `FieldDeclaration.decode`, `DateSettings.decode`, …: the decoders.
* `FieldDeclaration.toJson`, `DateSettings.toJson`, …: the encoders.
-/

namespace Playbill

/-- A selector and an attribute. -/
def FieldParts.decode : Decoder FieldParts :=
  decodeRecord "FieldSpec" {}
    [.of "selector" (.optional .text) fun v r => { r with selector := v },
      .of "attribute" (.optional .text) fun v r => { r with attrName := v }]

/-- A text, or a selector and an attribute. -/
def FieldDeclaration.decode : Decoder FieldDeclaration
  | .string t => .ok (.shorthand t)
  | value =>
    match FieldParts.decode value with
    | .ok s => .ok (.parts s)
    | .error _ => .error (.noVariant "FieldConfig")

/-- A text, or an array of texts. -/
def OneOrMore.decode : Decoder OneOrMore
  | .string t => .ok (.one t)
  | .array items =>
    match items.mapM Decoder.text with
    | .ok items => .ok (.many items)
    | .error _ => .error (.noVariant "OneOrMany")
  | _ => .error (.noVariant "OneOrMany")

/-- Date settings; every key may also be written with underscores. -/
def DateSettings.decode : Decoder DateSettings :=
  decodeRecord "DateConfig" {}
    [(RecordField.of "dateFormat" OneOrMore.decode
        fun v r => { r with format := v }).must.orNamed "date_format",
      (RecordField.of "dateLocale" .text
        fun v r => { r with locale := v }).orNamed "date_locale",
      (RecordField.of "preserveYear" .bool
        fun v r => { r with preserveYear := v }).orNamed "preserve_year"]

/-- Cells before the first that counts. -/
def HeaderOffset.decode : Decoder HeaderOffset :=
  decodeRecord "HeaderConfig" {} [.of "offset" .unsigned fun v r => { r with offset := v }]

/-- Limits of rows and columns. -/
def CellLimits.decode : Decoder CellLimits :=
  decodeRecord "CellsConfig" {}
    [.of "rowLimit" (.optional .unsigned) fun v r => { r with rowLimit := v },
      .of "columnLimit" (.optional .unsigned) fun v r => { r with columnLimit := v }]

/-- The layout of a table. -/
def TableLayout.decode : Decoder TableLayout :=
  decodeRecord "TableConfig" {}
    [.of "headerRow" (.optional HeaderOffset.decode) fun v r => { r with headerRow := v },
      .of "headerColumn" (.optional HeaderOffset.decode) fun v r => { r with headerColumn := v },
      .of "cells" (.optional CellLimits.decode) fun v r => { r with cells := v }]

/-- What a cell holds. -/
def CellMode.decode : Decoder CellMode :=
  .variant [("text", .text), ("markup", .markup)]

/-- The filling of a grid. -/
def GridOptions.decode : Decoder GridOptions :=
  decodeRecord "MatrixOptions" {}
    [.of "duplicateRowspan" .bool fun v r => { r with duplicateRowspan := v },
      .of "duplicateColspan" .bool fun v r => { r with duplicateColspan := v },
      .of "mode" CellMode.decode fun v r => { r with mode := v }]

/-- Tab buttons. -/
def TabButtons.decode : Decoder TabButtons :=
  decodeRecord "TabButtonsConfig" {}
    [(RecordField.of "box" .text fun v r => { r with box := v }).must,
      .of "id" (.optional FieldDeclaration.decode) fun v r => { r with id := v }]

/-- Tab cards. -/
def TabCards.decode : Decoder TabCards :=
  decodeRecord "TabCardsConfig" {}
    [(RecordField.of "box" .text fun v r => { r with box := v }).must]

/-- The structure of a tabbed page. -/
def TabLayout.decode : Decoder TabLayout :=
  decodeRecord "TabsConfig" {}
    [(RecordField.of "buttons" TabButtons.decode fun v r => { r with buttons := v }).must,
      .of "cards" (.optional TabCards.decode) fun v r => { r with cards := v }]

/-- A cap is a number or null. -/
def Cap.decode : Decoder Cap := fun value =>
  (Decoder.optional .unsigned value).map fun limit => ⟨limit⟩

/-- A recorded warning. -/
def Warning.decode : Decoder Warning :=
  decodeRecord "ScrapeWarning" ⟨[], [], []⟩
    [(RecordField.of "code" .text fun v (r : Warning) => { r with code := v }).must,
      (RecordField.of "message" .text fun v (r : Warning) => { r with message := v }).must,
      (RecordField.of "location" .text fun v (r : Warning) => { r with location := v }).must]

/-- The JSON form of an optional value: null when it is missing. -/
def Json.ofOption {α : Type} (encode : α → Json) : Option α → Json
  | some v => encode v
  | none => .null

/-- The JSON form of a field declaration. -/
def FieldDeclaration.toJson : FieldDeclaration → Json
  | .shorthand t => .string t
  | .parts s => .ofMembers
    [("selector", .ofText? s.selector), ("attribute", .ofText? s.attrName)]

/-- The JSON form of one or many texts. -/
def OneOrMore.toJson : OneOrMore → Json
  | .one item => .string item
  | .many items => .array (items.map .string)

/-- The JSON form of date settings. -/
def DateSettings.toJson (c : DateSettings) : Json :=
  .ofMembers
    [("dateFormat", c.format.toJson), ("dateLocale", .string c.locale),
      ("preserveYear", .bool c.preserveYear)]

/-- The JSON form of a header. -/
def HeaderOffset.toJson (c : HeaderOffset) : Json :=
  .ofMembers [("offset", .ofNat c.offset)]

/-- The JSON form of cell limits. -/
def CellLimits.toJson (c : CellLimits) : Json :=
  .ofMembers [("rowLimit", .ofNat? c.rowLimit), ("columnLimit", .ofNat? c.columnLimit)]

/-- The JSON form of a table layout. -/
def TableLayout.toJson (c : TableLayout) : Json :=
  .ofMembers
    [("headerRow", .ofOption HeaderOffset.toJson c.headerRow),
      ("headerColumn", .ofOption HeaderOffset.toJson c.headerColumn),
      ("cells", .ofOption CellLimits.toJson c.cells)]

/-- The JSON form of grid options. -/
def GridOptions.toJson (c : GridOptions) : Json :=
  .ofMembers
    [("duplicateRowspan", .bool c.duplicateRowspan),
      ("duplicateColspan", .bool c.duplicateColspan),
      ("mode", .string (match c.mode with
        | .text => "text"
        | .markup => "markup"))]

/-- The JSON form of tab buttons. -/
def TabButtons.toJson (c : TabButtons) : Json :=
  .ofMembers [("box", .string c.box), ("id", .ofOption FieldDeclaration.toJson c.id)]

/-- The JSON form of tab cards. -/
def TabCards.toJson (c : TabCards) : Json :=
  .ofMembers [("box", .string c.box)]

/-- The JSON form of a tab structure. -/
def TabLayout.toJson (c : TabLayout) : Json :=
  .ofMembers
    [("buttons", c.buttons.toJson), ("cards", .ofOption TabCards.toJson c.cards)]

/-- The JSON form of a cap. -/
def Cap.toJson (c : Cap) : Json :=
  .ofNat? c.limit

/-- The JSON form of a warning. -/
def Warning.toJson (w : Warning) : Json :=
  .ofMembers
    [("code", .string w.code), ("message", .string w.message), ("location", .string w.location)]

end Playbill
