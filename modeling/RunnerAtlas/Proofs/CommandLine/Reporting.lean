import RunnerAtlas.Proofs.CommandLine.LogFormat
import RunnerAtlas.Proofs.CommandLine.Stages
import RunnerAtlas.Proofs.Journal.Emissions
import RunnerAtlas.Proofs.Journal.Sessions

set_option relaxedAutoImplicit false
set_option autoImplicit false

/-!
# What a command reports

The console is configured twice in a run, before the settings are loaded and by them. So a command
whose settings cannot be loaded reports that alone. All others report, in order and once each, what
is loaded, matched and resolved, and at the end that they have failed, if they have; of all this the
console writes what is not below the level of the settings. The format that is given on the command
line counts both times.

## Main definitions

* `RunnerAtlas.CommandLine.Emits` — the records of loading, matching and resolution in a command.
* `RunnerAtlas.CommandLine.Ends` — the exit code of a command, and the record about its failure.
* `RunnerAtlas.CommandLine.linesOf` — records in a format, one on each line.
* `RunnerAtlas.CommandLine.Reported` — what a run under settings writes as errors.

## Main results

* `RunnerAtlas.CommandLine.Accepted.emits_reported` — a command emits the records of its parts.
* `RunnerAtlas.CommandLine.failures_notBelow` — the records about the failure of a command.
* `RunnerAtlas.CommandLine.run_reports` — what an accepted command line writes as errors.
-/

namespace RunnerAtlas.CommandLine

open Calendar Journal Journal.Logged RunnerAtlas.Outcome RunnerAtlas.Text

/-! ### Records of a command -/

variable (world : World) (command : Command) (words : List String) (a : Arguments)
  (settings : Settings)

/-- The record of a project that has been loaded. -/
def projectRecord (project : Project) : Record :=
  .of .info .loading (Loading.projectMessage project)

/-- The record of devices that have been loaded from a path. -/
def devicesRecord (path : String) (devices : List Device) : Record :=
  .of .info .loading (Loading.devicesMessage path devices)

/-- The records of loading, matching and resolution in a command, in order. -/
inductive Emits : Command → List Record → Prop where
  /-- The project cannot be loaded. -/
  | noProject {e : CommandError} (h : (loadProject world a).outcome = .error e) :
    Emits .resolve []
  /-- The project is loaded, but not the devices. -/
  | noDevices {project : Project} {e : CommandError}
    (hproject : (loadProject world a).outcome = .ok project)
    (h : (loadDevices world a).outcome = .error e) : Emits .resolve [projectRecord project]
  /-- The project is loaded, then the devices, and then the project is resolved. -/
  | resolution {project : Project} {path : String} {devices : List Device}
    (hproject : (loadProject world a).outcome = .ok project) (hpath : a.devices = some (.str path))
    (hdevices : HasDevices world .resolve words a devices) :
    Emits .resolve (projectRecord project :: devicesRecord path devices ::
      (Resolution.resolve project (.list (devices.map Device.candidate))
        (chosen .resolve words settings)).1.records)
  /-- The devices cannot be loaded. -/
  | noInventory {e : CommandError} (h : (loadDevices world a).outcome = .error e) : Emits .list []
  /-- The devices are loaded, and then the platform is matched. -/
  | matching {path platform : String} {devices : List Device}
    (hpath : a.devices = some (.str path)) (hdevices : HasDevices world .list words a devices)
    (hplatform : a.platform = some (.str platform)) :
    Emits .list (devicesRecord path devices ::
      (Matching.runners platform (devices.map Device.candidate)
        (chosen .list words settings)).records)

variable {world command words a settings}

/-- The records of a command are not those of the command line. -/
lemma Emits.isOfLibrary {records : List Record} (h : Emits world words a settings command records) :
    ∀ r ∈ records, r.IsOfLibrary := by
  have hproject (p : Project) : (projectRecord p).IsOfLibrary := ⟨_, _, _, by decide, rfl⟩
  have hdevices (path : String) (ds : List Device) : (devicesRecord path ds).IsOfLibrary :=
    ⟨_, _, _, by decide, rfl⟩
  cases h with
  | noProject => simp
  | noDevices => simpa using hproject _
  | resolution =>
    refine List.forall_mem_cons.mpr ⟨hproject _, List.forall_mem_cons.mpr ⟨hdevices _ _, ?_⟩⟩
    exact Resolution.reports_resolve _ _ _
  | noInventory => simp
  | matching =>
    exact List.forall_mem_cons.mpr ⟨hdevices _ _, Matching.reports_runners _ _ _⟩

/-- A project that a command loads is reported. -/
lemma reportsValue_loadProject : (loadProject world a).ReportsValue projectRecord :=
  .after fun _ _ => .after fun _ _ => (Loading.reportsValue_project _ _).mapError _

/-- Devices that a command loads are reported with their path. -/
lemma reportsValue_loadDevices : (loadDevices world a).ReportsValue
    (devicesRecord ((a.devices.bind Value.text?).getD "")) := by
  refine .after fun v hv => .after fun _ _ => .after fun path hpath => ?_
  have hdevices : (a.devices.bind Value.text?).getD "" = path := by
    cases hd : a.devices with
    | none =>
      rw [hd] at hv
      cases hv
    | some _ =>
      rw [hd] at hv
      cases hv
      cases v <;> cases hpath
      rfl
  rw [hdevices]
  exact (Loading.reportsValue_devices _ _ _).mapError _

/-- A command emits the records of loading, matching and resolution. -/
lemma Accepted.emits_reported (h : Accepted command words a) (world : World)
    (settings : Settings) :
    Emits world words a settings command (reported command world a settings).records := by
  cases command with
  | resolve =>
    have hrecords : (reported .resolve world a settings).records =
        (entries world a settings).records := records_bind_pure _ _
    rw [hrecords, entries, h.matchOptions_eq]
    cases hp : (loadProject world a).outcome with
    | error e =>
      rw [records_bind_of_error hp, reportsValue_loadProject.records_of_error hp]
      exact .noProject hp
    | ok project =>
      rw [records_bind_of_ok hp, reportsValue_loadProject.records_of_ok hp]
      cases hd : (loadDevices world a).outcome with
      | error e =>
        rw [records_bind_of_error hd, reportsValue_loadDevices.records_of_error hd]
        exact .noDevices hp hd
      | ok devices =>
        have hhas := (h.loadDevices_eq_ok_iff devices).mp hd
        obtain ⟨path, hpath, -⟩ := id hhas
        rw [records_bind_of_ok hd, reportsValue_loadDevices.records_of_ok hd, hpath]
        exact .resolution hp hpath hhas
  | list =>
    have hrecords : (reported .list world a settings).records =
        (runners world a settings).records := records_bind_pure _ _
    obtain ⟨platform, hplatform⟩ := h.platform_eq rfl
    rw [hrecords, runners, h.matchOptions_eq, hplatform]
    cases hd : (loadDevices world a).outcome with
    | error e =>
      rw [records_bind_of_error hd, reportsValue_loadDevices.records_of_error hd]
      exact .noInventory hd
    | ok devices =>
      have hhas := (h.loadDevices_eq_ok_iff devices).mp hd
      obtain ⟨path, hpath, -⟩ := id hhas
      rw [records_bind_of_ok hd, reportsValue_loadDevices.records_of_ok hd, hpath]
      exact .matching hpath hhas hplatform

/-! ### What the console writes -/

/-- Records in a format, one on each line, seconds after the start of 1970. -/
def linesOf (format : LineFormat) (seconds : Int) (records : List Record) : String :=
  String.join (records.map fun r => lineOf format (ofUnixSeconds seconds) r ++ "\n")

/-- The records that are not below a level. -/
def notBelow (level : Int) (records : List Record) : List Record :=
  records.filter fun r => decide (level ≤ r.level)

/-- A console with one handler writes one line for each record that is not below its level. -/
lemma pieces_eq_map_lineOf {c : Console} {handler : Handler} (hc : c.handlers = [handler])
    (hlevel : 0 < c.level) (seconds : Int) (records : List Record) :
    pieces c seconds records = (notBelow c.level records).map fun r =>
      lineOf handler.format (ofUnixSeconds seconds) r ++ "\n" := by
  have hpassed : ∀ r : Record, c.isEnabled r.level = decide (c.level ≤ r.level) := by
    intro r
    rw [Bool.eq_iff_iff, c.isEnabled_iff, decide_eq_true_iff]
    exact ⟨And.right, fun h => ⟨by omega, h⟩⟩
  simp only [pieces, notBelow, hpassed]
  refine List.map_congr_left fun r hr => ?_
  have hle : c.level ≤ r.level := by simpa using (List.mem_filter.mp hr).2
  rw [Console.written_of_configured hc, if_pos ⟨by omega, hle⟩]

/-- A console with one handler writes the records that are not below its level. -/
lemma join_pieces_eq_linesOf {c : Console} {handler : Handler} (hc : c.handlers = [handler])
    (hlevel : 0 < c.level) (seconds : Int) (records : List Record) :
    String.join (pieces c seconds records) =
      linesOf handler.format seconds (notBelow c.level records) := by
  rw [pieces_eq_map_lineOf hc hlevel, linesOf]

/-- A console that has only been configured by a command has one handler. -/
lemma configure_fresh {level : String} {found : Level} (h : levelNamed level = .ok found)
    (format : String) :
    Console.fresh.configure level format = ⟨found.number, [⟨.ofName format, true⟩]⟩ := by
  rw [Console.configure, h]
  rfl

/-- To configure the console once more leaves nothing of the first time, unless the name of the
level is refused. -/
lemma configure_configure {level : String} {found : Level} (h : levelNamed level = .ok found)
    (format level' format' : String) :
    (Console.fresh.configure level' format').configure level format =
      ⟨found.number, [⟨.ofName format, true⟩]⟩ := by
  rw [Console.configure, h]
  rfl

/-- The console before the settings have been loaded. -/
lemma startingConsole_eq (a : Arguments) : startingConsole a =
    ⟨Level.info.number, [⟨.ofName (a.formatName LoggingSettings.standard.format), true⟩]⟩ :=
  configure_fresh (eq_ok_of_toOption (by decide +kernel)) _

/-- The levels of settings are named alike on the console, and all of them are positive. -/
lemma exists_level_of_mem {name : String} (h : name ∈ LoggingSettings.levels) :
    ∃ level : Level, level.name = name ∧ levelNamed name = .ok level ∧ 0 < level.number := by
  have hall : ∀ name ∈ LoggingSettings.levels, ∃ level ∈ Level.all, level.name = name ∧
      (levelNamed name).toOption = some level ∧ 0 < level.number := by
    decide +kernel
  obtain ⟨level, -, hname, hnamed, hpositive⟩ := hall name h
  exact ⟨level, hname, eq_ok_of_toOption hnamed, hpositive⟩

/-! ### Whole runs -/

/-- A failure is passed on by every level but one. -/
lemma number_le_error_iff (level : Level) :
    level.number ≤ Level.error.number ↔ level.name ≠ "CRITICAL" := by
  cases level <;> decide

/-- How a command ends: its exit code, and the record about its failure if it fails. -/
inductive Ends (world : World) (command : Command) (words : List String) (a : Arguments) :
    Nat → List Record → Prop where
  /-- No stage fails. -/
  | success (h : ∀ stage, Passes world command words a stage) : Ends world command words a 0 []
  /-- A stage fails, and none before it. -/
  | failure {stage : Stage} {e : CommandError} (h : FirstFails world command words a stage e) :
    Ends world command words a 1 [failureRecord e]

/-- A command whose settings have been loaded passes the records of loading, matching and resolution
to the console, and then the one at its end. -/
lemma Accepted.ofCommand_of_ok (h : Accepted command words a)
    (hs : loadSettings world a = .ok settings) (seconds : Int) :
    ∃ records final, Emits world words a settings command records ∧
      Ends world command words a (Outcome.ofCommand command world seconds a).exitCode final ∧
      (Outcome.ofCommand command world seconds a).written =
        pieces (configured a settings (startingConsole a)) seconds (records ++ final) := by
  have hemits := h.emits_reported world settings
  have hcases := h.course_cases world (startingConsole a)
  rw [h.execute_of_ok hs] at hcases
  rw [Outcome.ofCommand, h.execute_of_ok hs, Outcome.written_ofExecution]
  obtain ⟨stage, e, hfirst, he⟩ | ⟨report, hproduces, hreport⟩ := hcases
  · rw [recordsOf_of_error he, Outcome.ofExecution, he]
    exact ⟨_, _, hemits, .failure hfirst, rfl⟩
  · rw [recordsOf_of_ok hreport, Outcome.ofExecution, hreport]
    exact ⟨_, [], hemits, .success (h.passes_of_produces hproduces), by rw [List.append_nil]⟩

/-- A command whose settings cannot be loaded passes the record about that to the console. -/
lemma Accepted.ofCommand_of_error (h : Accepted command words a) {e : CommandError}
    (he : loadSettings world a = .error e) (seconds : Int) :
    (Outcome.ofCommand command world seconds a).exitCode = 1 ∧
      (Outcome.ofCommand command world seconds a).written =
        pieces (startingConsole a) seconds [failureRecord e] := by
  rw [Outcome.ofCommand, h.execute_of_error he, Outcome.written_ofExecution]
  exact ⟨rfl, rfl⟩

/-- The records that are about the failure of a command. -/
def failures (records : List Record) : List Record :=
  records.filter fun r => r.source == Source.commandLine.name

/-- Of the records of a command that are not below a level, the one at its end is about its failure,
unless the level keeps it out. -/
lemma failures_notBelow {records final : List Record} {exitCode : Nat}
    (hemits : Emits world words a settings command records)
    (hends : Ends world command words a exitCode final) (level : Level) :
    failures (notBelow level.number (records ++ final)) =
      if level.name = "CRITICAL" then [] else final := by
  have hnone : failures (notBelow level.number records) = [] := by
    refine List.filter_eq_nil_iff.mpr fun r hr => ?_
    rw [beq_iff_eq]
    exact (hemits.isOfLibrary r (List.mem_of_mem_filter hr)).source_ne
  have happend : failures (notBelow level.number (records ++ final)) =
      failures (notBelow level.number records) ++ failures (notBelow level.number final) := by
    simp only [failures, notBelow, List.filter_append]
  rw [happend, hnone, List.nil_append]
  cases hends with
  | success => split_ifs <;> rfl
  | @failure stage e _ =>
    have hlevel : (failureRecord e).level = Level.error.number := rfl
    have hsource : (failureRecord e).source = Source.commandLine.name := rfl
    by_cases hcritical : level.name = "CRITICAL"
    · have hbelow : ¬ level.number ≤ Level.error.number :=
        fun hle => (number_le_error_iff level).mp hle hcritical
      simp [failures, notBelow, hlevel, hbelow, hcritical]
    · have hpassed := (number_le_error_iff level).mpr hcritical
      simp [failures, notBelow, hlevel, hsource, hpassed, hcritical]

/-- What a run under settings writes as errors: the records of loading, matching and resolution and
the one at its end, as far as the level of the settings lets them through. -/
structure Reported (world : World) (seconds : Int) (command : Command) (words : List String)
    (a : Arguments) (settings : Settings) (o : Outcome) (level : Level)
    (records final : List Record) : Prop where
  /-- The level is that of the settings. -/
  level_name : level.name = settings.logging.level
  /-- The records are those of loading, matching and resolution. -/
  emits : Emits world words a settings command records
  /-- The exit code says whether there is a record about a failure. -/
  ends : Ends world command words a o.exitCode final
  /-- What is not below the level is written in the format that is given, or else in that of the
  settings. -/
  errors_eq : o.errors =
    linesOf (.ofName ((formatGiven command words).getD settings.logging.format)) seconds
      (notBelow level.number (records ++ final))
  /-- A failure is written, unless only what is critical is. -/
  failures_eq : failures (notBelow level.number (records ++ final)) =
    if settings.logging.level = "CRITICAL" then [] else final

/-- **What a run reports.** Warnings apart, if the settings of an accepted command line cannot be
loaded, all that is written as errors is the line about that, in the format that is given or else in
the readable one. If they can, it is what `Reported` says.

**Proof sketch.** Either configuration of the console leaves one handler (`startingConsole_eq`,
`configure_configure`), which writes each record that is passed on once (`pieces_eq_map_lineOf`).
What is passed to it are the records of the stages (`Accepted.emits_reported`) and the one at the
end (`Accepted.ofCommand_of_ok`); no stage has a record of the command line
(`failures_notBelow`). -/
theorem run_reports (world : World) (seconds : Int) {words : List String} {command : Command}
    {a : Arguments} (h : parse words = .ok (some (command, a))) :
    ∃ rest, words = command.word :: rest ∧
      (∀ e, loadSettings world a = .error e → (run world seconds words).exitCode = 1 ∧
        (run world seconds words).errors =
          linesOf (.ofName ((formatGiven command rest).getD "readable")) seconds
            [failureRecord e]) ∧
      ∀ settings, loadSettings world a = .ok settings → ∃ level records final,
        Reported world seconds command rest a settings (run world seconds words) level records
          final := by
  obtain ⟨rest, g, hwords, hread, rfl⟩ := exists_readCommand_of_parse h
  have haccepted := accepted_of_readCommand hread
  have hformat := formatName_eq hread
  have hrun : run world seconds words = .ofCommand command world seconds g.arguments := by
    rw [run, h]
  rw [hrun]
  refine ⟨rest, hwords, fun e he => ?_, fun settings hs => ?_⟩
  · obtain ⟨hcode, hwritten⟩ := haccepted.ofCommand_of_error he seconds
    have hpositive : 0 < Level.info.number := by decide
    refine ⟨hcode, ?_⟩
    rw [Outcome.errors, hwritten, startingConsole_eq, hformat, join_pieces_eq_linesOf rfl hpositive]
    rfl
  · obtain ⟨level, hname, hnamed, hpositive⟩ := exists_level_of_mem (level_mem_levels hs)
    obtain ⟨records, final, hemits, hends, hwritten⟩ := haccepted.ofCommand_of_ok hs seconds
    refine ⟨level, records, final, hname, hemits, hends, ?_, ?_⟩
    · rw [Outcome.errors, hwritten, configured, startingConsole, configure_configure hnamed,
        hformat, join_pieces_eq_linesOf rfl hpositive]
    · rw [← hname]
      exact failures_notBelow hemits hends level

/-- A platform that is no pattern fails, under a variable that lets failures through only. Of two
formats the last one counts. -/
theorem run_reports_failure :
    let inventory := "[\x7bname: A, udid: B, runtimeIdentifier: iOS-17\x7d]"
    let world : World := ⟨fun _ => .file (Utf8.encode inventory.toList) "work",
      [("TARGETRUNNERS_LOGGING__LEVEL", "ERROR")]⟩
    let words := ["--devices", "devices.yml", "--log-format", "json", "(", "--log-format=readable"]
    let o := run world 0 ("match" :: words)
    formatGiven .list words = some "readable" ∧ o.exitCode = 1 ∧
      o.errors = "00:00:00 | ERROR | [BOOT] CLI execution failed: Invalid platform pattern '(': " ++
        "missing ), unterminated subpattern at position 0\n" ∧
      ∃ a settings level records final, parse ("match" :: words) = .ok (some (.list, a)) ∧
        Reported world 0 .list words a settings o level records final := by
  intro inventory world words o
  let settings : Settings := ⟨⟨false, false⟩, ⟨"ERROR", "readable"⟩⟩
  have hloaded : ((parse ("match" :: words)).toOption.bind fun found =>
      found.map fun found => (found.1, (loadSettings world found.2).toOption)) =
        some (.list, some settings) := by
    decide +kernel
  obtain ⟨found, hfound, hsome⟩ := Option.bind_eq_some_iff.mp hloaded
  obtain ⟨⟨command, a⟩, rfl, heq⟩ := Option.map_eq_some_iff.mp hsome
  obtain ⟨rfl, hsettings⟩ := Prod.mk.inj heq
  have h := eq_ok_of_toOption hfound
  obtain ⟨rest, hwords, -, hreported⟩ := run_reports world 0 h
  cases hwords
  obtain ⟨level, records, final, hfinal⟩ := hreported settings (eq_ok_of_toOption hsettings)
  have houtcome : o = ⟨1, "", [.written
      ("00:00:00 | ERROR | [BOOT] CLI execution failed: Invalid platform pattern '(': " ++
        "missing ), unterminated subpattern at position 0\n")], false⟩ := by
    decide +kernel
  exact ⟨by decide +kernel, congrArg Outcome.exitCode houtcome, congrArg Outcome.errors houtcome,
    a, settings, level, records, final, h, hfinal⟩

end RunnerAtlas.CommandLine
