import RunnerAtlas.CommandLine.Run
import RunnerAtlas.Proofs.CommandLine.Chunks
import RunnerAtlas.Proofs.CommandLine.Parsing
import RunnerAtlas.Proofs.Json.Reports
import RunnerAtlas.Proofs.Settings.Layers

set_option relaxedAutoImplicit false
set_option autoImplicit false

/-!
# Stages of a command

A command goes through stages: it loads its settings, its project if it resolves one, and its
devices, and then resolves or matches. The first stage that fails decides the error that is
reported, and nothing is written as output. If none fails, the output is one JSON text with the
entries of the project or with the runners of the platform.

## Main definitions

* `RunnerAtlas.CommandLine.Command.stages` — the stages of a command in their order.
* `RunnerAtlas.CommandLine.Fails`, `RunnerAtlas.CommandLine.FirstFails` — a stage fails, and it is
  the first one that does.
* `RunnerAtlas.CommandLine.Produces` — what the stages of a command lead to if none fails.
* `RunnerAtlas.CommandLine.Follows` — an outcome that is decided by the stages.

## Main results

* `RunnerAtlas.CommandLine.course_cases` — a command ends with the error of the first stage that
  fails, or with what its stages lead to.
* `RunnerAtlas.CommandLine.run_accepted` — the outcome of an accepted command line follows its
  stages.
-/

namespace RunnerAtlas.CommandLine

open Journal RunnerAtlas.Outcome RunnerAtlas.Text

/-! ### Stages -/

/-- The stages of commands. -/
inductive Stage where
  /-- Loads the settings. -/
  | settings
  /-- Loads the project. -/
  | project
  /-- Loads the devices. -/
  | devices
  /-- Resolves the project, or matches the platform. -/
  | matching

/-- The stages of a command, in their order. -/
def Command.stages : Command → List Stage
  | resolve => [.settings, .project, .devices, .matching]
  | list => [.settings, .devices, .matching]

/-- How platforms are matched: as the options say that are given, and else as the settings say. -/
def chosen (command : Command) (words : List String) (settings : Settings) : MatchOptions :=
  ⟨given command words .ignoreCase || settings.matching.ignoreCase,
    given command words .literal || settings.matching.literal⟩

variable (world : World) (command : Command) (words : List String) (a : Arguments)

/-- The devices in the inventory of a command, without those that are not available if the option
for that is given. -/
def HasDevices (devices : List Device) : Prop :=
  ∃ path, a.devices = some (.str path) ∧
    (Loading.devices world.files path (given command words .availableOnly)).outcome = .ok devices

/-- A stage of a command fails with an error. The last stage can only fail on what the others have
loaded. -/
inductive Fails : Command → Stage → CommandError → Prop where
  /-- The settings cannot be loaded. -/
  | settings {command : Command} {e : CommandError} (h : loadSettings world a = .error e) :
    Fails command .settings e
  /-- The project cannot be loaded. -/
  | project {e : CommandError} (h : (loadProject world a).outcome = .error e) :
    Fails .resolve .project e
  /-- The devices cannot be loaded. -/
  | devices {command : Command} {e : CommandError} (h : (loadDevices world a).outcome = .error e) :
    Fails command .devices e
  /-- The project cannot be resolved. -/
  | resolution {settings : Settings} {project : Project} {devices : List Device}
    {e : ResolutionError} (hsettings : loadSettings world a = .ok settings)
    (hproject : (loadProject world a).outcome = .ok project)
    (hdevices : HasDevices world .resolve words a devices)
    (h : (Resolution.resolve project (.list (devices.map Device.candidate))
      (chosen .resolve words settings)).1.outcome = .error e) :
    Fails .resolve .matching (.resolution e)
  /-- The platform cannot be matched. -/
  | matching {settings : Settings} {devices : List Device} {platform : String} {e : MatchError}
    (hsettings : loadSettings world a = .ok settings)
    (hdevices : HasDevices world .list words a devices)
    (hplatform : a.platform = some (.str platform))
    (h : (Matching.runners platform (devices.map Device.candidate)
      (chosen .list words settings)).outcome = .error e) :
    Fails .list .matching (.matching e)

/-- A stage of a command does not fail. -/
def Passes (stage : Stage) : Prop := ∀ e, ¬ Fails world words a command stage e

/-- A stage of a command fails with an error, and none before it fails. -/
def FirstFails (stage : Stage) (e : CommandError) : Prop :=
  ∃ before after, command.stages = before ++ stage :: after ∧
    (∀ other ∈ before, Passes world command words a other) ∧ Fails world words a command stage e

/-- What the stages of a command lead to if none of them fails. -/
inductive Produces : Command → Value → Prop where
  /-- The project is resolved into entries. -/
  | entries {settings : Settings} {project : Project} {devices : List Device}
    {entries : List Entry} (hsettings : loadSettings world a = .ok settings)
    (hproject : (loadProject world a).outcome = .ok project)
    (hdevices : HasDevices world .resolve words a devices)
    (h : (Resolution.resolve project (.list (devices.map Device.candidate))
      (chosen .resolve words settings)).1.outcome = .ok entries) :
    Produces .resolve (.list (entries.map Entry.value))
  /-- The platform is matched by runners. -/
  | runners {settings : Settings} {devices : List Device} {platform : String}
    {runners : List Runner} (hsettings : loadSettings world a = .ok settings)
    (hdevices : HasDevices world .list words a devices)
    (hplatform : a.platform = some (.str platform))
    (h : (Matching.runners platform (devices.map Device.candidate)
      (chosen .list words settings)).outcome = .ok runners) :
    Produces .list (.list (runners.map Runner.value))

variable {world command words a}

/-- The first stage that fails does fail. -/
lemma FirstFails.fails {stage : Stage} {e : CommandError}
    (h : FirstFails world command words a stage e) : Fails world words a command stage e := by
  obtain ⟨_, _, _, _, hfails⟩ := h
  exact hfails

/-! ### Accepted arguments -/

namespace Accepted

variable (h : Accepted command words a)

include h

/-- The arguments are meant for the command. -/
lemma checkCommand_eq : checkCommand command a = .ok () := by
  rw [checkCommand, h.command_eq]
  exact if_pos rfl

/-- The format of records has a text. -/
lemma checkFormat_eq : checkFormat a = .ok () := by
  rw [checkFormat]
  cases hformat : a.logFormat with
  | none => rfl
  | some v =>
    obtain ⟨text, rfl⟩ := h.logFormat_eq v hformat
    rfl

/-- Platforms are matched as the options say that are given, and else as the settings say. -/
lemma matchOptions_eq (settings : Settings) :
    a.matchOptions settings = chosen command words settings := by
  rw [Arguments.matchOptions, chosen, h.ignoreCase_eq, h.literal_eq]
  cases given command words .ignoreCase <;> cases given command words .literal <;> rfl

/-- The devices are loaded exactly if they are those of the inventory. -/
lemma loadDevices_eq_ok_iff (devices : List Device) :
    (loadDevices world a).outcome = .ok devices ↔ HasDevices world command words a devices := by
  obtain ⟨v, hv⟩ := Option.isSome_iff_exists.mp h.devices_isSome
  have hswitch (b : Bool) : (!(Value.bool b).isEmpty) = b := Bool.not_not b
  have hload : (loadDevices world a).outcome = (pathText v >>= fun path =>
      (Loading.devices world.files path (given command words .availableOnly)).outcome.mapError
        .loading) := by
    rw [loadDevices, hv, h.availableOnly_eq]
    simp only [Logged.outcome_bind, Logged.outcome_ofExcept, need, Logged.outcome_mapError]
    show (pathText v >>= fun path => _) = _
    rw [hswitch]
  rw [hload, bind_eq_ok_iff, HasDevices, hv]
  constructor
  · rintro ⟨path, hpath, hdevices⟩
    refine ⟨path, ?_, (mapError_eq_ok_iff _ _ _).mp hdevices⟩
    cases v <;> cases hpath
    rfl
  · rintro ⟨path, hpath, hdevices⟩
    cases hpath
    exact ⟨path, rfl, (mapError_eq_ok_iff _ _ _).mpr hdevices⟩

/-- A command whose settings cannot be loaded fails with their error. -/
lemma execute_of_error {e : CommandError} (he : loadSettings world a = .error e)
    (console : Console) : execute command world a console = ⟨console, .fail e⟩ := by
  rw [execute, h.checkCommand_eq, h.checkFormat_eq, he]
  rfl

/-- A command whose settings have been loaded goes on under them. -/
lemma execute_of_ok {settings : Settings} (hs : loadSettings world a = .ok settings)
    (console : Console) : execute command world a console =
      ⟨configured a settings console, reported command world a settings⟩ := by
  rw [execute, h.checkCommand_eq, h.checkFormat_eq, hs]
  rfl

/-- If the stages of a command lead to something, none of them fails. -/
lemma passes_of_produces {v : Value} (hv : Produces world words a command v) (stage : Stage) :
    Passes world command words a stage := by
  intro e hfails
  cases hv with
  | entries hsettings hproject hdevices hentries =>
    have hdevices := (h.loadDevices_eq_ok_iff _).mpr hdevices
    cases hfails with
    | settings he => cases he.symm.trans hsettings
    | project he => cases he.symm.trans hproject
    | devices he => cases he.symm.trans hdevices
    | resolution hsettings' hproject' hdevices' he =>
      have hdevices' := (h.loadDevices_eq_ok_iff _).mpr hdevices'
      cases hsettings'.symm.trans hsettings
      cases hproject'.symm.trans hproject
      cases hdevices'.symm.trans hdevices
      cases he.symm.trans hentries
  | runners hsettings hdevices hplatform hrunners =>
    have hdevices := (h.loadDevices_eq_ok_iff _).mpr hdevices
    cases hfails with
    | settings he => cases he.symm.trans hsettings
    | devices he => cases he.symm.trans hdevices
    | matching hsettings' hdevices' hplatform' he =>
      have hdevices' := (h.loadDevices_eq_ok_iff _).mpr hdevices'
      cases hsettings'.symm.trans hsettings
      cases hdevices'.symm.trans hdevices
      cases hplatform'.symm.trans hplatform
      cases he.symm.trans hrunners

end Accepted

/-! ### The first stage that fails -/

/-- Settings that have been loaded have not failed. -/
lemma passes_settings {settings : Settings} (hs : loadSettings world a = .ok settings) :
    Passes world command words a .settings := by
  intro e hfails
  cases hfails with
  | settings he => cases he.symm.trans hs

/-- A project that has been loaded has not failed. -/
lemma passes_project {project : Project} (hp : (loadProject world a).outcome = .ok project) :
    Passes world command words a .project := by
  intro e hfails
  cases hfails with
  | project he => cases he.symm.trans hp

/-- Devices that have been loaded have not failed. -/
lemma passes_devices {devices : List Device} (hd : (loadDevices world a).outcome = .ok devices) :
    Passes world command words a .devices := by
  intro e hfails
  cases hfails with
  | devices he => cases he.symm.trans hd

namespace Accepted

/-- A project is resolved into entries, or else the first stage that fails decides the error. -/
lemma entries_cases (h : Accepted .resolve words a) {settings : Settings}
    (hs : loadSettings world a = .ok settings) :
    (∃ stage e, FirstFails world .resolve words a stage e ∧
      (entries world a settings).outcome = .error e) ∨
    ∃ es, Produces world words a .resolve (.list (es.map Entry.value)) ∧
      (entries world a settings).outcome = .ok es := by
  have hsettings : Passes world .resolve words a .settings := passes_settings hs
  rw [entries, h.matchOptions_eq]
  simp only [Logged.outcome_bind, Logged.outcome_mapError]
  cases hp : (loadProject world a).outcome with
  | error e => exact .inl ⟨.project, e, ⟨[.settings], _, rfl, by simpa, .project hp⟩, rfl⟩
  | ok project =>
    have hproject : Passes world .resolve words a .project := passes_project hp
    cases hd : (loadDevices world a).outcome with
    | error e =>
      exact .inl ⟨.devices, e, ⟨[.settings, .project], _, rfl, by simp [*], .devices hd⟩, rfl⟩
    | ok devices =>
      have hdevices : Passes world .resolve words a .devices := passes_devices hd
      have hhas := (h.loadDevices_eq_ok_iff devices).mp hd
      cases hr : (Resolution.resolve project (.list (devices.map Device.candidate))
        (chosen .resolve words settings)).1.outcome with
      | error e =>
        refine .inl ⟨.matching, .resolution e, ⟨[.settings, .project, .devices], [], rfl,
          by simp [*], .resolution hs hp hhas hr⟩, ?_⟩
        show Except.mapError _ _ = _
        rw [hr]
        rfl
      | ok es =>
        refine .inr ⟨es, .entries hs hp hhas hr, ?_⟩
        show Except.mapError _ _ = _
        rw [hr]
        rfl

/-- A platform is matched by runners, or else the first stage that fails decides the error. -/
lemma runners_cases (h : Accepted .list words a) {settings : Settings}
    (hs : loadSettings world a = .ok settings) :
    (∃ stage e, FirstFails world .list words a stage e ∧
      (runners world a settings).outcome = .error e) ∨
    ∃ rs, Produces world words a .list (.list (rs.map Runner.value)) ∧
      (runners world a settings).outcome = .ok rs := by
  have hsettings : Passes world .list words a .settings := passes_settings hs
  obtain ⟨platform, hplatform⟩ := h.platform_eq rfl
  rw [runners, h.matchOptions_eq, hplatform]
  simp only [Logged.outcome_bind, Logged.outcome_mapError, Logged.outcome_ofExcept]
  cases hd : (loadDevices world a).outcome with
  | error e => exact .inl ⟨.devices, e, ⟨[.settings], _, rfl, by simpa, .devices hd⟩, rfl⟩
  | ok devices =>
    have hdevices : Passes world .list words a .devices := passes_devices hd
    have hhas := (h.loadDevices_eq_ok_iff devices).mp hd
    cases hr : (Matching.runners platform (devices.map Device.candidate)
      (chosen .list words settings)).outcome with
    | error e =>
      refine .inl ⟨.matching, .matching e, ⟨[.settings, .devices], [], rfl, by simp [*],
        .matching hs hhas hplatform hr⟩, ?_⟩
      show Except.mapError _ (Matching.runners platform _ _).outcome = _
      rw [hr]
      rfl
    | ok rs =>
      refine .inr ⟨rs, .runners hs hhas hplatform hr, ?_⟩
      show Except.mapError _ (Matching.runners platform _ _).outcome = _
      rw [hr]
      rfl

/-- **The first stage that fails.** A command ends with the error of its first stage that fails, or
with a report on what its stages lead to.

**Proof sketch.** The stages are gone through in their order. Each of them fails, with all before it
passed, or hands what it has loaded to the next one (`entries_cases`, `runners_cases`). -/
theorem course_cases (h : Accepted command words a) (world : World) (console : Console) :
    (∃ stage e, FirstFails world command words a stage e ∧
      (execute command world a console).course.outcome = .error e) ∨
    ∃ report, Produces world words a command report.value ∧
      (execute command world a console).course.outcome = .ok report := by
  cases hs : loadSettings world a with
  | error e =>
    rw [h.execute_of_error hs]
    refine .inl ⟨.settings, e, ?_, rfl⟩
    cases command with
    | resolve => exact ⟨[], _, rfl, by simp, .settings hs⟩
    | list => exact ⟨[], _, rfl, by simp, .settings hs⟩
  | ok settings =>
    rw [h.execute_of_ok hs]
    cases command with
    | resolve =>
      have hreported : (reported .resolve world a settings).outcome =
          (entries world a settings).outcome >>= fun es => .ok (.ofEntries es) := by
        simp only [reported, Logged.outcome_bind, Logged.outcome_pure]
      dsimp only
      rw [hreported]
      obtain ⟨stage, e, hfirst, he⟩ | ⟨es, hproduces, hes⟩ := h.entries_cases hs
      · exact .inl ⟨stage, e, hfirst, by rw [he]; rfl⟩
      · refine .inr ⟨.ofEntries es, ?_, by rw [hes]; rfl⟩
        rwa [Report.value_ofEntries]
    | list =>
      have hreported : (reported .list world a settings).outcome =
          (runners world a settings).outcome >>= fun rs => .ok (.ofRunners rs) := by
        simp only [reported, Logged.outcome_bind, Logged.outcome_pure]
      dsimp only
      rw [hreported]
      obtain ⟨stage, e, hfirst, he⟩ | ⟨rs, hproduces, hrs⟩ := h.runners_cases hs
      · exact .inl ⟨stage, e, hfirst, by rw [he]; rfl⟩
      · refine .inr ⟨.ofRunners rs, ?_, by rw [hrs]; rfl⟩
        rwa [Report.value_ofRunners]

end Accepted

/-! ### Outcomes -/

/-- The console that a command reports to: it is configured by the settings once they have been
loaded. -/
def consoleOf (world : World) (a : Arguments) : Console :=
  match loadSettings world a with
  | .ok settings => configured a settings (startingConsole a)
  | .error _ => startingConsole a

/-- A command reports to its console. -/
lemma Accepted.console_eq (h : Accepted command words a) :
    (execute command world a (startingConsole a)).console = consoleOf world a := by
  unfold consoleOf
  cases hs : loadSettings world a with
  | error e => rw [h.execute_of_error hs]
  | ok settings => rw [h.execute_of_ok hs]

/-- Settings that have been loaded name a level of those to choose from. -/
lemma level_mem_levels {settings : Settings} (hs : loadSettings world a = .ok settings) :
    settings.logging.level ∈ LoggingSettings.levels := by
  have hload : ∃ path?, Settings.load world.files world.environment path? = .ok settings := by
    unfold loadSettings at hs
    dsimp only at hs
    split at hs
    all_goals
      obtain ⟨path?, -, hs⟩ := (bind_eq_ok_iff _ _ _).mp hs
      exact ⟨path?, (mapError_eq_ok_iff _ _ _).mp hs⟩
  obtain ⟨path?, hload⟩ := hload
  obtain ⟨entries, hdocument⟩ := Settings.exists_isDocument hload
  rw [hdocument.load_eq, Settings.layered_eq_ok_iff hdocument.wellKeyed] at hload
  obtain ⟨-, v, -, haccepts⟩ := hload.2 .level
  exact ((Validation.choice_eq_ok_iff _ _ _ _).mp haccepts).2

/-- Settings that have been loaded name a level that there is, so that nothing can fail while they
configure the console. -/
lemma exists_level {settings : Settings} (hs : loadSettings world a = .ok settings) :
    ∃ level, levelNamed settings.logging.level = .ok level := by
  have hlevels : LoggingSettings.levels.all fun name => (levelNamed name).toOption.isSome := by
    decide +kernel
  obtain ⟨level, hlevel⟩ :=
    Option.isSome_iff_exists.mp (List.all_eq_true.mp hlevels _ (level_mem_levels hs))
  exact ⟨level, eq_ok_of_toOption hlevel⟩

/-- An outcome that is decided by the stages of a command. -/
structure Follows (world : World) (seconds : Int) (command : Command) (words : List String)
    (a : Arguments) (o : Outcome) : Prop where
  /-- The command was carried out. -/
  halted_eq : o.halted = false
  /-- The exit code is zero or one. -/
  exitCode_cases : o.exitCode = 0 ∨ o.exitCode = 1
  /-- The exit code is one exactly if a stage fails. -/
  exitCode_eq_one_iff : o.exitCode = 1 ↔ ∃ stage e, Fails world words a command stage e
  /-- If a stage fails, the first one that does decides the error that is reported last, and nothing
  is written as output. -/
  of_exitCode_one : o.exitCode = 1 → o.output = "" ∧
    ∃ stage e records, FirstFails world command words a stage e ∧
      o.errors = (consoleOf world a).writtenAll seconds (records ++ [failureRecord e])
  /-- If no stage fails, the output is one JSON text in lines, which stands for what the stages lead
  to. -/
  of_exitCode_zero : o.exitCode = 0 → ∃ t : Json.Tree,
    o.output.toList = (Json.Text.indented t).chars ∧ Produces world words a command t.value

/-- The outcome of a command follows its stages. -/
lemma follows_ofCommand (h : Accepted command words a) (seconds : Int) :
    Follows world seconds command words a (.ofCommand command world seconds a) := by
  have herrors := Outcome.errors_ofExecution seconds (execute command world a (startingConsole a))
  rw [h.console_eq] at herrors
  obtain ⟨stage, e, hfirst, he⟩ | ⟨report, hproduces, hreport⟩ :=
    h.course_cases world (startingConsole a)
  · rw [recordsOf_of_error he] at herrors
    have hcode : (Outcome.ofCommand command world seconds a).exitCode = 1 ∧
        (Outcome.ofCommand command world seconds a).output = "" ∧
        (Outcome.ofCommand command world seconds a).halted = false := by
      rw [Outcome.ofCommand, Outcome.ofExecution, he]
      exact ⟨rfl, rfl, rfl⟩
    exact {
      halted_eq := hcode.2.2
      exitCode_cases := .inr hcode.1
      exitCode_eq_one_iff := iff_of_true hcode.1 ⟨stage, e, hfirst.fails⟩
      of_exitCode_one := fun _ => ⟨hcode.2.1, stage, e, _, hfirst, herrors⟩
      of_exitCode_zero := fun hzero => by rw [hcode.1] at hzero; cases hzero }
  · have hcode : (Outcome.ofCommand command world seconds a).exitCode = 0 ∧
        (Outcome.ofCommand command world seconds a).output = report.pretty ++ "\n" ∧
        (Outcome.ofCommand command world seconds a).halted = false := by
      rw [Outcome.ofCommand, Outcome.ofExecution, hreport]
      exact ⟨rfl, rfl, rfl⟩
    have hpasses : ¬ ∃ stage e, Fails world words a command stage e := by
      rintro ⟨stage, e, hfails⟩
      exact h.passes_of_produces hproduces stage e hfails
    obtain ⟨t, hvalue, hchars⟩ := report.exists_tree
    exact {
      halted_eq := hcode.2.2
      exitCode_cases := .inl hcode.1
      exitCode_eq_one_iff := iff_of_false (fun hone => by rw [hcode.1] at hone; cases hone) hpasses
      of_exitCode_one := fun hone => by rw [hcode.1] at hone; cases hone
      of_exitCode_zero := fun _ => ⟨t, hcode.2.1 ▸ hchars.symm, hvalue ▸ hproduces⟩ }

/-- **The outcome of a command line.** An accepted command line is the word for its command before
words that are read as its arguments, and its outcome follows the stages of the command. Nothing
fails between the stages. -/
theorem run_accepted (world : World) (seconds : Int) {words : List String} {command : Command}
    {a : Arguments} (h : parse words = .ok (some (command, a))) :
    ∃ rest, words = command.word :: rest ∧ Accepted command rest a ∧
      (∀ settings, loadSettings world a = .ok settings →
        ∃ level, levelNamed settings.logging.level = .ok level) ∧
      Follows world seconds command rest a (run world seconds words) := by
  obtain ⟨rest, hwords, haccepted⟩ := parse_eq_ok_some h
  refine ⟨rest, hwords, haccepted, fun settings => exists_level, ?_⟩
  rw [run, h]
  exact follows_ofCommand haccepted seconds

/-- A platform in small letters is matched by the device of an inventory since an option asks for
that. -/
theorem run_accepted_ignoring_case :
    let inventory := "[\x7bname: A, udid: B, runtimeIdentifier: iOS-17\x7d]"
    let world : World := ⟨fun _ => .file (Utf8.encode inventory.toList) "work", []⟩
    let words := ["--devices", "devices.yml", "ios", "--ignore-case"]
    let o := run world 0 ("match" :: words)
    given .list words .ignoreCase = true ∧ o.exitCode = 0 ∧
      o.output = "[\n  \x7b\n    \"name\": \"A\",\n    \"udid\": \"B\"\n  \x7d\n]\n" ∧
      ∃ a, parse ("match" :: words) = .ok (some (.list, a)) ∧ Follows world 0 .list words a o := by
  intro inventory world words o
  have hparse : ((parse ("match" :: words)).toOption.bind fun found => found.map Prod.fst) =
      some .list := by decide +kernel
  obtain ⟨found, hfound, hcommand⟩ := Option.bind_eq_some_iff.mp hparse
  obtain ⟨⟨command, a⟩, rfl, rfl⟩ := Option.map_eq_some_iff.mp hcommand
  have h := eq_ok_of_toOption hfound
  obtain ⟨rest, hwords, -, -, hfollows⟩ := run_accepted world 0 h
  cases hwords
  exact ⟨by decide +kernel, by decide +kernel, by decide +kernel, a, h, hfollows⟩

end RunnerAtlas.CommandLine
