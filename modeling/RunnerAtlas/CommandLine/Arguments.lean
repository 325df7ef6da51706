import RunnerAtlas.Settings.Basic
import RunnerAtlas.Value.Literal
import RunnerAtlas.Value.Mapping

/-!
# Arguments of a command

The arguments of a command are values under names, and any of them may be missing. Those that
choose how platforms are matched go before the settings.

## Main definitions

* `RunnerAtlas.CommandLine.Arguments` — the arguments, made from a mapping by `Arguments.ofMapping`.
* `RunnerAtlas.CommandLine.Arguments.matchOptions` — how platforms are matched.
* `RunnerAtlas.CommandLine.Arguments.formatName` — the format of records.
-/

set_option autoImplicit false

namespace RunnerAtlas.CommandLine

/-- The arguments of a command. -/
structure Arguments where
  /-- The command. -/
  command : Option Value := none
  /-- The platform. -/
  platform : Option Value := none
  /-- The file of the project. -/
  project : Option Value := none
  /-- The file of the inventory. -/
  devices : Option Value := none
  /-- The file of the settings. -/
  config : Option Value := none
  /-- Whether letter case is ignored. -/
  ignoreCase : Option Value := none
  /-- Whether platforms are literal texts. -/
  literal : Option Value := none
  /-- Whether devices that are not available are left out. -/
  availableOnly : Option Value := none
  /-- The format of records. -/
  logFormat : Option Value := none

namespace Arguments

/-- The arguments of a mapping. -/
def ofMapping (entries : Mapping) : Arguments where
  command := Mapping.find? entries "command"
  platform := Mapping.find? entries "platform"
  project := Mapping.find? entries "project"
  devices := Mapping.find? entries "devices"
  config := Mapping.find? entries "config"
  ignoreCase := Mapping.find? entries "ignore_case"
  literal := Mapping.find? entries "literal"
  availableOnly := Mapping.find? entries "available_only"
  logFormat := Mapping.find? entries "log_format"

/-- A switch by an argument, or by a setting where the argument is missing or absent. -/
def switch (argument : Option Value) (setting : Bool) : Bool :=
  match argument with
  | none => setting
  | some .null => setting
  | some v => !v.isEmpty

/-- How platforms are matched. -/
def matchOptions (a : Arguments) (settings : Settings) : MatchOptions :=
  ⟨switch a.ignoreCase settings.matching.ignoreCase, switch a.literal settings.matching.literal⟩

/-- The name of the format of records: the argument, or a fallback where it counts as absent. -/
def formatName (a : Arguments) (fallback : String) : String :=
  let v := a.logFormat.getD .null
  if v.isEmpty then fallback else v.display

/-- The paths among the arguments. -/
def paths (a : Arguments) : List String :=
  [a.config, a.project, a.devices].filterMap fun argument => argument.bind Value.text?

end Arguments

end RunnerAtlas.CommandLine
