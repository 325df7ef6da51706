import RunnerAtlas.Platform
import RunnerAtlas.Validation.Check

/-!
# Settings

The settings of a run: how platforms are matched, and how much is reported in which format.

## Main definitions

* `RunnerAtlas.Settings` — the settings, read by `Settings.check`.
* `RunnerAtlas.Settings.standard` — their defaults.
* `RunnerAtlas.Settings.toMapping` — the settings as a mapping.
-/

set_option autoImplicit false

namespace RunnerAtlas

open Validation

/-- How much is reported, and in which format. -/
structure LoggingSettings where
  /-- The name of the least level that is reported. -/
  level : String
  /-- The name of the format. -/
  format : String
  deriving DecidableEq

/-- The settings of a run. -/
structure Settings where
  /-- How platforms are matched. -/
  matching : MatchOptions
  /-- What is reported. -/
  logging : LoggingSettings
  deriving DecidableEq

namespace LoggingSettings

/-- The defaults. -/
def standard : LoggingSettings := ⟨"INFO", "readable"⟩

/-- The names of levels. -/
def levels : List String := ["DEBUG", "INFO", "WARNING", "ERROR", "CRITICAL"]

/-- The names of formats. -/
def formats : List String := ["readable", "json"]

/-- The form of a list of names, as a message shows it. -/
def formOf (names : List String) : String := "^(" ++ String.intercalate "|" names ++ ")$"

/-- One name of a list. -/
def oneOf (names : List String) : Value → Checked String := choice (formOf names) names

/-- The section of a record. -/
def check (v : Value) : Checked LoggingSettings := do
  let entries ← record "LoggingConfig" v
  (Checked.ap (.ok LoggingSettings.mk) (optional entries "level" (oneOf levels) standard.level)).ap
    (optional entries "format" (oneOf formats) standard.format)

end LoggingSettings

/-- The section on matching of a record. -/
def MatchOptions.check (v : Value) : Checked MatchOptions := do
  let entries ← record "MatchingConfig" v
  (Checked.ap (.ok MatchOptions.mk) (optional entries "ignore_case" truth false)).ap
    (optional entries "literal" truth false)

namespace Settings

/-- The defaults. -/
def standard : Settings := ⟨{}, .standard⟩

/-- The settings of a record. -/
def check (v : Value) : Checked Settings := do
  let entries ← record "Config" v
  (Checked.ap (.ok Settings.mk) (optional entries "matching" MatchOptions.check {})).ap
    (optional entries "logging" LoggingSettings.check .standard)

/-- The settings of a record, or the report on it. -/
def ofValue (v : Value) : Except Invalid Settings := (check v).report "Config"

/-- The settings as a mapping. -/
def toMapping (s : Settings) : Mapping :=
  [(.str "matching", .map [(.str "ignore_case", .bool s.matching.ignoreCase),
      (.str "literal", .bool s.matching.literal)]),
    (.str "logging", .map [(.str "level", .str s.logging.level),
      (.str "format", .str s.logging.format)])]

end Settings

end RunnerAtlas
