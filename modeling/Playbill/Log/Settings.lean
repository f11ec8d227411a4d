import Playbill.Json.Decoder

/-!
# Logging settings

* `LogSettings`: what is logged and where the log goes.
* `LogSettings.directive`: the level and the levels of single targets in one line.
* `LogSettings.decode`, `LogSettings.toJson`: the JSON form, with underscores in its keys.
-/

namespace Playbill

/-- What is logged and where the log goes.  `moduleFilters` gives single targets levels of their own
and is kept in ascending order of the targets. -/
structure LogSettings where
  level : Text := "info"
  jsonFormat : Bool := false
  consoleOutput : Bool := true
  fileOutput : Bool := false
  logDirectory : Text := "logs"
  filePrefix : Text := "showtime-scraper"
  moduleFilters : List (Text × Text) := [("html5ever", "warn"), ("selectors", "warn")]
  deriving DecidableEq

namespace LogSettings

/-- The level of a single target as it stands in a directive. -/
def targetRule (filter : Text × Text) : Text :=
  [','] ++ filter.1 ++ ['='] ++ filter.2

/-- The general level without blanks at its ends, followed by the levels of the targets in ascending
order of the targets. -/
def directive (c : LogSettings) : Text :=
  Text.trim c.level ++ (Members.ofList c.moduleFilters).flatMap targetRule

/-- Logging settings; only the levels of single targets may be left out. -/
def decode : Decoder LogSettings :=
  decodeRecord "LoggingConfig" { moduleFilters := [] }
    [(RecordField.of "level" .text fun v r => { r with level := v }).must,
      (RecordField.of "json_format" .bool fun v r => { r with jsonFormat := v }).must,
      (RecordField.of "console_output" .bool fun v r => { r with consoleOutput := v }).must,
      (RecordField.of "file_output" .bool fun v r => { r with fileOutput := v }).must,
      (RecordField.of "log_directory" .filePath fun v r => { r with logDirectory := v }).must,
      (RecordField.of "file_prefix" .text fun v r => { r with filePrefix := v }).must,
      .of "module_filters" .textMap fun v r => { r with moduleFilters := v }]

/-- The JSON form of logging settings. -/
def toJson (c : LogSettings) : Json :=
  .ofMembers
    [("level", .string c.level), ("json_format", .bool c.jsonFormat),
      ("console_output", .bool c.consoleOutput), ("file_output", .bool c.fileOutput),
      ("log_directory", .string c.logDirectory), ("file_prefix", .string c.filePrefix),
      ("module_filters", .ofMembers (c.moduleFilters.map fun (target, level) =>
        (target, .string level)))]

end LogSettings

end Playbill
