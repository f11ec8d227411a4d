import Playbill.Cap
import Playbill.Declaration.Format
import Playbill.Log.Settings

/-!
# Settings of an extraction

* `Settings`: the settings as a whole, and `Settings.cap`.
* `SettingsProblem`, `Settings.problem?`: the first of the values that cannot be used.
* `Settings.decode`, `Settings.toJson`: the JSON form.
-/

namespace Playbill

/-- The settings of an extraction: a limit on every iteration, the dates of fields that bring no
date settings of their own, and logging. -/
structure Settings where
  iterationLimit : Option Nat := none
  date : DateSettings := {}
  logging : LogSettings := {}
  deriving DecidableEq

/-- Why settings cannot be used. -/
inductive SettingsProblem
  | zeroLimit
  | blankLevel
  | blankFormat
  deriving DecidableEq

/-- The wording of a problem. -/
def SettingsProblem.message (problem : SettingsProblem) : Text :=
  "Configuration validation failed: ".toList ++
    (match problem with
      | .zeroLimit => "iteration_limit must be greater than 0"
      | .blankLevel => "logging.level must not be empty"
      | .blankFormat => "date.date_format entries must not be empty").toList

namespace Settings

/-- The limit as a cap on iterations. -/
def cap (c : Settings) : Cap :=
  ⟨c.iterationLimit⟩

/-- The first problem: a limit that lets nothing through, a level of blanks only, and a date format
of blanks only. -/
def problem? (c : Settings) : Option SettingsProblem :=
  if c.iterationLimit == some 0 then some .zeroLimit
  else if (Text.trim c.logging.level).isEmpty then some .blankLevel
  else if c.date.format.toList.any fun format => (Text.trim format).isEmpty then
    some .blankFormat
  else none

/-- Settings, all of which may be left out. -/
def decode : Decoder Settings :=
  decodeRecord "ScraperConfig" {}
    [.of "iteration_limit" (.optional .unsigned) fun v r => { r with iterationLimit := v },
      .of "date" DateSettings.decode fun v r => { r with date := v },
      .of "logging" LogSettings.decode fun v r => { r with logging := v }]

/-- The JSON form of settings. -/
def toJson (c : Settings) : Json :=
  .ofMembers
    [("iteration_limit", .ofNat? c.iterationLimit), ("date", c.date.toJson),
      ("logging", c.logging.toJson)]

end Settings

end Playbill
