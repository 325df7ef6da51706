import RunnerAtlas.CommandLine.Arguments
import RunnerAtlas.CommandLine.Flag
import RunnerAtlas.Journal.Console
import RunnerAtlas.Report.Runners
import RunnerAtlas.Resolution
import RunnerAtlas.Settings.Loading

/-!
# Execution of commands

A command loads its settings, which configure the console, then its files, and then matches or
resolves. The first step that fails ends it.

## Main definitions

* `RunnerAtlas.CommandLine.CommandError` — why a command fails.
* `RunnerAtlas.CommandLine.World` — what a command finds around it.
* `RunnerAtlas.CommandLine.runners`, `RunnerAtlas.CommandLine.entries` — the steps of the two
  commands after their settings.
* `RunnerAtlas.CommandLine.Execution` — the course of a command, by `CommandLine.execute`.
-/

set_option autoImplicit false

namespace RunnerAtlas.CommandLine

open Journal

/-- Why a command fails. -/
inductive CommandError where
  /-- An argument is missing. -/
  | noArgument (name : String)
  /-- The arguments are those of another command. -/
  | unsupported (command : String)
  /-- An argument has no text. -/
  | unshowable
  /-- An argument is no path. -/
  | noPath (argument : Value)
  /-- There are no settings. -/
  | settings (error : SettingsError)
  /-- A file cannot be loaded. -/
  | loading (error : LoadError)
  /-- Matching fails. -/
  | matching (error : MatchError)
  /-- The project cannot be resolved. -/
  | resolution (error : ResolutionError)

/-- The message of an error. -/
def CommandError.message : CommandError → String
  | noArgument name => s!"'Namespace' object has no attribute '{name}'"
  | unsupported command => s!"Unsupported command: {command}"
  | unshowable => Value.unshowableMessage
  | noPath (.bytes _) =>
    "argument should be a str object or an os.PathLike object returning str, not <class 'bytes'>"
  | noPath argument => s!"expected str, bytes or os.PathLike object, not {argument.kind}"
  | settings error => error.message
  | loading error => error.message
  | matching error => error.message
  | resolution error => error.message

/-- What a command finds around it. -/
structure World where
  /-- The files. -/
  files : Files
  /-- The variables of the environment. -/
  environment : Environment

/-- An argument that a command cannot do without. -/
def need (name : String) (argument : Option Value) : Except CommandError Value :=
  match argument with
  | some v => .ok v
  | none => .error (.noArgument name)

/-- The text of an argument. -/
def shownText (v : Value) : Except CommandError String :=
  if v.isShowable then .ok v.display else .error .unshowable

/-- A text is its own. -/
@[simp] theorem shownText_str (s : String) : shownText (.str s) = .ok s := rfl

/-- The text of a path. -/
def pathText : Value → Except CommandError String
  | .str s => .ok s
  | v => .error (.noPath v)

/-- The settings of a command. -/
def loadSettings (world : World) (a : Arguments) : Except CommandError Settings := do
  let path ← match a.config.getD .null with
    | .null => pure none
    | v => (pathText v).map some
  (Settings.load world.files world.environment path).mapError .settings

/-- The devices of a command. -/
def loadDevices (world : World) (a : Arguments) : Logged CommandError (List Device) := do
  let devices ← .ofExcept (need "devices" a.devices)
  let availableOnly ← .ofExcept (need "available_only" a.availableOnly)
  let path ← .ofExcept (pathText devices)
  (Loading.devices world.files path !availableOnly.isEmpty).mapError .loading

/-- The project of a command. -/
def loadProject (world : World) (a : Arguments) : Logged CommandError Project := do
  let project ← .ofExcept (need "project" a.project)
  let path ← .ofExcept (pathText project)
  (Loading.project world.files path).mapError .loading

/-- The entries of a project under settings. -/
def entries (world : World) (a : Arguments) (settings : Settings) :
    Logged CommandError (List Entry) := do
  let project ← loadProject world a
  let devices ← loadDevices world a
  (Resolution.resolve project (.list (devices.map Device.candidate))
    (a.matchOptions settings)).1.mapError .resolution

/-- The runners of a platform under settings. -/
def runners (world : World) (a : Arguments) (settings : Settings) :
    Logged CommandError (List Runner) := do
  let devices ← loadDevices world a
  let platform ← .ofExcept (need "platform" a.platform)
  let text ← .ofExcept (shownText platform)
  (Matching.runners text (devices.map Device.candidate)
    (a.matchOptions settings)).mapError .matching

/-- What a command reports under settings. -/
def reported (command : Command) (world : World) (a : Arguments) (settings : Settings) :
    Logged CommandError Report :=
  match command with
  | .resolve => do return .ofEntries (← entries world a settings)
  | .list => do return .ofRunners (← runners world a settings)

/-- The arguments of a command checked to be meant for it. -/
def checkCommand (command : Command) (a : Arguments) : Except CommandError Unit :=
  match a.command with
  | none => .error (.noArgument "command")
  | some (.str word) =>
    if word = command.word then .ok () else .error (.unsupported word)
  | some v => do throw (.unsupported (← shownText v))

/-- The format of records checked to have a text, if an argument gives it. -/
def checkFormat (a : Arguments) : Except CommandError Unit :=
  match a.logFormat with
  | none => .ok ()
  | some v => (shownText v).map fun _ => ()

/-- The course of a command. -/
structure Execution where
  /-- The console that the settings have configured, or the one from before. -/
  console : Console
  /-- The records and the outcome. -/
  course : Logged CommandError Report

/-- The console as settings configure it, unless an argument gives the format. -/
def configured (a : Arguments) (settings : Settings) (console : Console) : Console :=
  console.configure settings.logging.level (a.formatName settings.logging.format)

/-- The course of a command with arguments, from a console on. -/
def execute (command : Command) (world : World) (a : Arguments) (console : Console) : Execution :=
  match checkCommand command a *> loadSettings world a <* checkFormat a with
  | .error e => ⟨console, .fail e⟩
  | .ok settings => ⟨configured a settings console, reported command world a settings⟩

end RunnerAtlas.CommandLine
