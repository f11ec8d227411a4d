import Playbill.Settings.Basic
import Playbill.Settings.Path
import Playbill.Toml.Reader

/-!
# Loading settings

Settings come in layers: the defaults, a file, and the variables of the environment.

* `SettingsFile.layer?`: what a file says, in the format that its name tells.
* `environmentLayer`: what the environment says.
* `Settings.ofSetting?`: the settings that the layers come to.
* `Settings.load`: all of it, and the check of the values.
-/

namespace Playbill

/-- A file of settings; it has no content when it is not there. -/
structure SettingsFile where
  name : Text
  content : Option Text := none
  deriving DecidableEq

/-- The formats of files. -/
inductive FileFormat
  | json
  | toml
  deriving DecidableEq

namespace SettingsFile

/-- What comes after the last point of a name that does not start with it. -/
def extension (name : Text) : Text :=
  let last := (Text.pieces '/' name).getLast?.getD []
  match (Text.pieces '.' last).reverse with
  | suffix :: stem :: more => if more.isEmpty && stem.isEmpty then [] else suffix
  | _ => []

/-- The format that the extension of a name tells. -/
def format? (file : SettingsFile) : Option FileFormat :=
  Members.find? (extension file.name) [("json".toList, .json), ("toml".toList, .toml)]

/-- The members of a JSON text that is an object. -/
def jsonLayer? (t : Text) : Option (List (Text × Setting)) :=
  match Json.parse? t with
  | some (.object members) => some (Setting.ofMembers members)
  | _ => none

/-- The members of a file.  A file that is not there, or has no known format, has none, unless it is
required. -/
def layer? (file : SettingsFile) (required : Bool) : Option (List (Text × Setting)) :=
  match file.content, file.format? with
  | some content, some .json => jsonLayer? content
  | some content, some .toml => Toml.parse? content
  | _, _ => if required then none else some []

end SettingsFile

/-- The beginning of the names of variables that are settings, in small letters. -/
def environmentPrefix : Text :=
  "showtime__"

/-- The text with a point for every two underscores. -/
def pointed : Text → Text
  | '_' :: '_' :: rest => '.' :: pointed rest
  | c :: rest => c :: pointed rest
  | [] => []

/-- The key of a variable that is a setting. -/
def environmentKey? (name : Text) : Option Text :=
  (Text.dropLeading? environmentPrefix (Text.lower name)).map pointed

/-- What the value of a variable stands for: a truth value, an integer, a number, or else a text. -/
def Setting.ofEnvironment (t : Text) : Setting :=
  let word := Text.lower t
  if word == "true".toList then .bool true
  else if word == "false".toList then .bool false
  else
    match Text.signed? t, Extended.read? t with
    | some n, _ => .int n
    | none, some x => .float x
    | none, none => .text t

/-- The settings among the variables of the environment. -/
def environmentLayer (environment : List (Text × Text)) : List (Text × Setting) :=
  environment.filterMap fun (name, value) =>
    (environmentKey? name).map fun key => (key, .ofEnvironment value)

/-- A table with a layer over it, every key of which is a path. -/
def Setting.addLayer? (below : Setting) (layer : List (Text × Setting)) : Option Setting :=
  layer.foldlM (fun below (key, value) => value.put? (SettingStep.path key) below) below

/-- One text or a list of texts; nothing else is turned into a text here. -/
def OneOrMore.ofSetting? : Setting → Option OneOrMore
  | .text t => some (.one t)
  | .list items => (items.mapM Setting.asText?).map .many
  | _ => none

/-- The setting of one text or a list of texts. -/
def OneOrMore.toSetting : OneOrMore → Setting
  | .one item => .text item
  | .many items => .list (items.map .text)

/-- The date settings that a setting stands for. -/
def DateSettings.ofSetting? (s : Setting) : Option DateSettings := do
  let format ← (← s.field? "date_format" 0) >>= OneOrMore.ofSetting?
  let locale ← match ← s.field? "date_locale" 1 with
    | some v => v.toText?
    | none => some "en".toList
  let preserveYear ← match ← s.field? "preserve_year" 2 with
    | some v => v.toBool?
    | none => some false
  return ⟨format, locale, preserveYear⟩

/-- The logging settings that a setting stands for. -/
def LogSettings.ofSetting? (s : Setting) : Option LogSettings := do
  let level ← (← s.field? "level" 0) >>= Setting.toText?
  let jsonFormat ← (← s.field? "json_format" 1) >>= Setting.toBool?
  let consoleOutput ← (← s.field? "console_output" 2) >>= Setting.toBool?
  let fileOutput ← (← s.field? "file_output" 3) >>= Setting.toBool?
  let logDirectory ← (← s.field? "log_directory" 4) >>= Setting.toText?
  let filePrefix ← (← s.field? "file_prefix" 5) >>= Setting.toText?
  let moduleFilters ← match ← s.field? "module_filters" 6 with
    | some v => v.toTextMap?
    | none => some []
  return { level, jsonFormat, consoleOutput, fileOutput, logDirectory, filePrefix, moduleFilters }

namespace Settings

/-- The settings that a table stands for. -/
def ofSetting? (s : Setting) : Option Settings := do
  let iterationLimit ← match ← s.field? "iteration_limit" 0 with
    | none | some .null => some none
    | some v => v.toWord?.map some
  let date ← match ← s.field? "date" 1 with
    | some v => DateSettings.ofSetting? v
    | none => some {}
  let logging ← match ← s.field? "logging" 2 with
    | some v => LogSettings.ofSetting? v
    | none => some {}
  return { iterationLimit, date, logging }

/-- The layer of the defaults. -/
def defaultLayer : List (Text × Setting) :=
  let c : Settings := {}
  [("date", .table
      [("date_format", c.date.format.toSetting),
        ("date_locale", .text c.date.locale),
        ("preserve_year", .bool c.date.preserveYear)]),
    ("logging", .table
      [("console_output", .bool c.logging.consoleOutput),
        ("file_output", .bool c.logging.fileOutput),
        ("file_prefix", .text c.logging.filePrefix),
        ("json_format", .bool c.logging.jsonFormat),
        ("level", .text c.logging.level),
        ("log_directory", .text c.logging.logDirectory),
        ("module_filters", .table (c.logging.moduleFilters.map fun (target, level) =>
          (target, .text level)))])]

end Settings

/-- Why settings are not loaded: they cannot be read, a key names a position that its list does not
have, or a value cannot be used. -/
inductive SettingsFailure
  | unreadable
  | misplaced
  | invalid (problem : SettingsProblem)
  deriving DecidableEq

/-- What a file says.  Without a file there is nothing to say, unless one is required. -/
def Settings.fileLayer? (file : Option SettingsFile) (required : Bool) :
    Option (List (Text × Setting)) :=
  match file with
  | some file => file.layer? required
  | none => if required then none else some []

/-- Loads the defaults, a file and the variables of the environment, a later layer going before an
earlier one. -/
def Settings.load (file : Option SettingsFile) (required : Bool)
    (environment : List (Text × Text)) : Except SettingsFailure Settings :=
  match fileLayer? file required with
  | none => .error .unreadable
  | some fileLayer =>
    match [defaultLayer, fileLayer, environmentLayer environment].foldlM
      Setting.addLayer? (.table []) with
    | none => .error .misplaced
    | some merged =>
      match ofSetting? merged with
      | none => .error .unreadable
      | some c =>
        match c.problem? with
        | some problem => .error (.invalid problem)
        | none => .ok c

end Playbill
