import RunnerAtlas.Loading
import RunnerAtlas.Settings.Basic
import RunnerAtlas.Settings.Override
import RunnerAtlas.Value.Merge

/-!
# Loading settings

The settings of a run come from three layers: the defaults, a document, and the variables of the
environment. Each layer goes before the one below it, and what results is checked as a whole.

## Main definitions

* `RunnerAtlas.SettingsError` — why there are no settings.
* `RunnerAtlas.Settings.layered` — the settings of a mapping and an environment.
* `RunnerAtlas.Settings.ofDocument` — the settings of a document's value.
* `RunnerAtlas.Settings.load` — the settings of a file, or of no file.
-/

set_option autoImplicit false

namespace RunnerAtlas

open Validation

/-- Why there are no settings. -/
inductive SettingsError where
  /-- The file holds no document. -/
  | read (error : ReadError)
  /-- The document is no mapping. -/
  | noMapping (path : Path)
  /-- A variable cannot override a value. -/
  | override (error : OverrideError)
  /-- The settings do not fit their model. -/
  | invalid (report : Invalid)

/-- The message of an error. -/
def SettingsError.message : SettingsError → String
  | read error => error.message "Config file"
  | noMapping path => s!"Config file must contain a mapping: {path.text}"
  | override error => error.message
  | invalid report => report.message

namespace Settings

/-- The settings of a mapping over the defaults and under an environment. -/
def layered (env : Environment) (entries : Mapping) : Except SettingsError Settings := do
  let merged := Mapping.merge entries standard.toMapping
  let overridden ← (Override.mapping env merged "").mapError .override
  (ofValue (.map overridden)).mapError .invalid

/-- The settings of the value of a document at a path. A value that counts as absent is an empty
mapping. -/
def ofDocument (env : Environment) (path : Path) (data : Value) : Except SettingsError Settings :=
  if data.isEmpty then layered env []
  else match data with
    | .map entries => layered env entries
    | _ => .error (.noMapping path)

/-- The settings of a file under an environment. Without a path the document that comes with the
program takes the place of the file. It writes the defaults out, so that to merge it into them leaves
them as they are: an empty mapping stands for it here, and no file is read. -/
def load (files : Files) (env : Environment) (path? : Option String) :
    Except SettingsError Settings :=
  match path? with
  | none => layered env []
  | some text => do
    let path := Path.ofText text
    let (data, _) ← (Loading.document files path).mapError .read
    ofDocument env path data

/-- The names of the variables that matter for the settings of a file, or of none. -/
def variableNames (files : Files) (path? : Option String) : List String :=
  let document := path?.bind fun text => (Loading.document files (.ofText text)).toOption
  let entries := (document.bind fun found => found.1.entries?).getD []
  Override.variableNamesUnder (Mapping.merge entries standard.toMapping) (.str "")

end Settings

end RunnerAtlas
