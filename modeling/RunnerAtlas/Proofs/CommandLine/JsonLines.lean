import RunnerAtlas.Proofs.CommandLine.Reporting
import RunnerAtlas.Proofs.Journal.JsonLines
import RunnerAtlas.Proofs.Journal.Warned

set_option relaxedAutoImplicit false
set_option autoImplicit false

/-!
# Runs that report in JSON

A command line may give JSON as the format of records, and settings may. Whatever a run in that
format reports, be it the text of a target, a path or a problem of many lines, stands in lines of
which each is read back as one record. But not all that it writes as errors are records: a platform
in which a set looks as if it held another one is warned of in two lines that are no JSON.

## Main definitions

* `RunnerAtlas.CommandLine.timed` — records at one moment.
* `RunnerAtlas.CommandLine.IsPlatform` — the platforms of a command.
* `RunnerAtlas.CommandLine.WritesJson` — a run writes records in JSON, and warnings beside them.

## Main results

* `RunnerAtlas.CommandLine.Accepted.written_of_error`,
  `RunnerAtlas.CommandLine.Accepted.written_of_ok` — what a command in JSON writes for its records.
* `RunnerAtlas.CommandLine.exists_of_warns_reported`,
  `RunnerAtlas.CommandLine.warns_reported` — what a command warns of.
* `RunnerAtlas.CommandLine.jsonLines_readBack` — records in JSON are read back from their lines.
* `RunnerAtlas.CommandLine.jsonLines_readBack_fails` — runs that write more lines than records.
-/

namespace RunnerAtlas.CommandLine

open Calendar Journal Journal.Logged RunnerAtlas.Outcome RunnerAtlas.Text

/-! ### Records and lines -/

/-- Records at one moment, seconds after the start of 1970. -/
def timed (seconds : Int) (records : List Record) : List (Moment × Record) :=
  records.map fun r => (ofUnixSeconds seconds, r)

/-- A run writes records in JSON, each on a line of its own, and besides these nothing but warnings,
each of them once and on two lines. -/
structure WritesJson (o : Outcome) (records : List (Moment × Record)) : Prop where
  /-- What is no warning are the lines of the records, one after the other. -/
  written_eq : o.written = records.map fun x => lineOf .json x.1 x.2 ++ "\n"
  /-- These lines are read back as the records. -/
  inJsonLines : InJsonLines o.errors records
  /-- Nothing is warned of twice. -/
  nodup : o.warnings.Nodup
  /-- There is one line for each record, and there are two for each warning. -/
  breaks : ∀ origin : Origin, origin.IsPlain → (o.standardError origin).toList.count '\n' =
    records.length + 2 * o.warnings.length
  /-- If nothing is warned of, there are only the lines of the records. -/
  standardError_eq : o.warnings = [] → ∀ origin, o.standardError origin = o.errors

/-- A run writes records in JSON if the pieces that it writes are their lines. -/
lemma writesJson_of_written {o : Outcome} {records : List (Moment × Record)}
    (h : o.written = records.map fun x => lineOf .json x.1 x.2 ++ "\n") (hnodup : o.warnings.Nodup)
    (hplain : ∀ text ∈ o.warnings, '\n' ∉ text.toList) : WritesJson o records := by
  have hlines : InJsonLines o.errors records := by
    rw [Outcome.errors, h]
    exact inJsonLines_jsonText records
  exact {
    written_eq := h
    inJsonLines := hlines
    nodup := hnodup
    breaks := fun origin horigin => by
      rw [Outcome.count_standardError hplain horigin, hlines.breaks]
    standardError_eq := Outcome.standardError_eq }

namespace Accepted

variable {world : World} {command : Command} {words : List String} {a : Arguments}
  (h : Accepted command words a) (seconds : Int)

include h

/-- A command whose settings cannot be loaded reports that alone, in JSON if that is the format
before the settings are known. -/
lemma written_of_error {e : CommandError} (he : loadSettings world a = .error e)
    (hformat : a.formatName LoggingSettings.standard.format = "json") :
    (Outcome.ofCommand command world seconds a).written =
      (timed seconds [failureRecord e]).map fun x => lineOf .json x.1 x.2 ++ "\n" := by
  have hpositive : 0 < Level.info.number := by decide
  rw [(h.ofCommand_of_error he seconds).2, startingConsole_eq, hformat,
    pieces_eq_map_lineOf rfl hpositive]
  rfl

/-- A command whose settings have been loaded reports what is not below their level, in JSON if that
is the format under the settings. -/
lemma written_of_ok {settings : Settings} (hs : loadSettings world a = .ok settings)
    (hformat : a.formatName settings.logging.format = "json") :
    ∃ (level : Level) (records final : List Record), level.name = settings.logging.level ∧
      Emits world words a settings command records ∧
      Ends world command words a (Outcome.ofCommand command world seconds a).exitCode final ∧
      (Outcome.ofCommand command world seconds a).written =
        (timed seconds (notBelow level.number (records ++ final))).map fun x =>
          lineOf .json x.1 x.2 ++ "\n" := by
  obtain ⟨level, hname, hnamed, hpositive⟩ := exists_level_of_mem (level_mem_levels hs)
  obtain ⟨records, final, hemits, hends, hwritten⟩ := h.ofCommand_of_ok hs seconds
  refine ⟨level, records, final, hname, hemits, hends, ?_⟩
  rw [hwritten, configured, startingConsole, configure_configure hnamed, hformat,
    pieces_eq_map_lineOf rfl hpositive, timed, List.map_map]
  rfl

end Accepted

/-! ### Warnings -/

/-- The platforms of a command: the one that it is given, or those that the targets of its project
declare. -/
inductive IsPlatform (world : World) (a : Arguments) : Command → String → Prop where
  /-- A target of the project declares the platform. -/
  | declared {project : Project} {t : String × Target} {platform : String}
    (hproject : (loadProject world a).outcome = .ok project) (ht : t ∈ project.targets.toList)
    (h : platform ∈ t.2.platforms) : IsPlatform world a .resolve platform
  /-- The platform is an argument. -/
  | given {platform : String} (h : a.platform = some (.str platform)) :
    IsPlatform world a .list platform

section Warnings

variable {world : World} {command : Command} {words : List String} {a : Arguments}
  {settings : Settings} {text : String}

/-- To load a project is not warned of. -/
lemma not_warns_loadProject : ¬ (loadProject world a).Warns text := by
  simp [loadProject, Loading.project, warns_bind]

/-- To load devices is not warned of. -/
lemma not_warns_loadDevices : ¬ (loadDevices world a).Warns text := by
  simp [loadDevices, Loading.devices, warns_bind]

/-- A command warns of its platforms. -/
lemma exists_of_warns_reported (h : Accepted command words a)
    (htext : (reported command world a settings).Warns text) :
    ∃ platform, IsPlatform world a command platform ∧
      text ∈ Platform.warnings platform (chosen command words settings) := by
  cases command with
  | resolve =>
    simp only [reported, entries, h.matchOptions_eq, warns_bind, warns_mapError,
      not_warns_loadProject, not_warns_loadDevices, not_warns_pure, and_false, exists_false,
      or_false, false_or] at htext
    obtain ⟨project, hproject, devices, -, htext⟩ := htext
    obtain ⟨t, ht, platform, hplatform, htext⟩ := Resolution.exists_of_warns_resolve htext
    exact ⟨platform, .declared hproject ht hplatform, htext⟩
  | list =>
    obtain ⟨platform, hplatform⟩ := h.platform_eq rfl
    simp only [reported, runners, h.matchOptions_eq, warns_bind, warns_mapError,
      not_warns_loadDevices, not_warns_ofExcept, not_warns_pure, and_false, exists_false, or_false,
      false_or, hplatform, need, shownText_str, outcome_ofExcept, Except.ok.injEq,
      exists_eq_left', Matching.warns_runners] at htext
    obtain ⟨devices, -, htext⟩ := htext
    exact ⟨platform, .given hplatform, htext⟩

/-- A command that succeeds warns of all its platforms. -/
lemma warns_reported (h : Accepted command words a) {report : Report}
    (hreport : (reported command world a settings).outcome = .ok report) {platform : String}
    (hplatform : IsPlatform world a command platform)
    (htext : text ∈ Platform.warnings platform (chosen command words settings)) :
    (reported command world a settings).Warns text := by
  cases hplatform with
  | declared hproject ht hplatform =>
    simp only [reported, entries, h.matchOptions_eq, outcome_bind, outcome_mapError, hproject,
      bind_eq_ok_iff, Except.ok.injEq, exists_eq_left', mapError_eq_ok_iff] at hreport
    obtain ⟨es, ⟨devices, hdevices, hes⟩, -⟩ := hreport
    have hresolve := (Resolution.warns_resolve_iff hes).mpr ⟨_, ht, platform, hplatform, htext⟩
    simp only [reported, entries, h.matchOptions_eq, warns_bind, warns_mapError]
    exact .inl (.inr ⟨_, hproject, .inr ⟨devices, hdevices, hresolve⟩⟩)
  | given hplatform =>
    simp only [reported, runners, h.matchOptions_eq, outcome_bind, outcome_mapError,
      bind_eq_ok_iff] at hreport
    obtain ⟨found, ⟨devices, hdevices, -⟩, -⟩ := hreport
    have hmatching := (Matching.warns_runners platform (devices.map Device.candidate) _ _).mpr htext
    simp only [reported, runners, h.matchOptions_eq, warns_bind, warns_mapError, hplatform]
    exact .inl (.inr ⟨devices, hdevices, .inr ⟨_, rfl, .inr ⟨_, rfl, hmatching⟩⟩⟩)

end Warnings

/-- **Records in JSON are read back.** Whatever its level, its source and its message are, a record
in JSON is printable ASCII, so that there is no break in it, and it is decoded to the moment, the
name of the level, the source and the message. Records are written alike only if they stand for the
same, so that no message passes for a record. Once a session has configured that format, it writes
as many lines as it passes on records, as long as it keeps to JSON, and they are decoded to the
records in order.

So does a run whose command is carried out, both if its settings cannot be loaded and if they can,
but for what it warns of. A warning is about a platform of the command and takes two lines. A
command that succeeds warns of all its platforms that there is a warning of.

**Proof sketch.** A record is escaped so that the decoder reads it back (`decode_lineOf_json`) and
that no line ends early (`inJsonLines_jsonText`, `jsonText_eq_iff`). A session and a run write the
lines of the records that are passed on (`Console.writtenIn_eq`, `Accepted.written_of_error`,
`Accepted.written_of_ok`), and a run the warnings among its events (`exists_of_warns_reported`,
`warns_reported`), which have no breaks (`Platform.break_notMem_of_mem_warnings`). -/
theorem jsonLines_readBack :
    (∀ (t : Moment) (r : Record), (∀ c ∈ (lineOf .json t r).toList, Report.IsPrintable c) ∧
      Json.decode (lineOf .json t r).toList =
        some (.map [(.str "ts", .str (stampText t)), (.str "level", .str (levelName r.level)),
          (.str "logger", .str r.source), (.str "msg", .str r.message)])) ∧
    (∀ xs ys : List (Moment × Record), jsonText xs = jsonText ys ↔
      (xs.map fun x => x.2.value x.1) = ys.map fun y => y.2.value y.1) ∧
    (∀ (past : List SessionStep) (level : String), lastNames past = some (level, "json") →
      ∀ future : List SessionStep, (∀ i ∈ future, i.InJson) →
        InJsonLines ((consoleAfter past).writtenIn future) ((consoleAfter past).passedIn future)) ∧
    ∀ (world : World) (seconds : Int) (words : List String) (command : Command) (a : Arguments),
      parse words = .ok (some (command, a)) → ∃ rest, words = command.word :: rest ∧
        (∀ e, loadSettings world a = .error e → formatGiven command rest = some "json" →
          WritesJson (run world seconds words) (timed seconds [failureRecord e]) ∧
            (run world seconds words).warnings = []) ∧
        ∀ settings, loadSettings world a = .ok settings →
          (formatGiven command rest).getD settings.logging.format = "json" →
          ∃ (level : Level) (records final : List Record),
            level.name = settings.logging.level ∧
            Emits world rest a settings command records ∧
            Ends world command rest a (run world seconds words).exitCode final ∧
            WritesJson (run world seconds words)
              (timed seconds (notBelow level.number (records ++ final))) ∧
            (∀ text ∈ (run world seconds words).warnings, ∃ platform,
              IsPlatform world a command platform ∧
                text ∈ Platform.warnings platform (chosen command rest settings)) ∧
            ((run world seconds words).exitCode = 0 → ∀ platform text,
              IsPlatform world a command platform →
                text ∈ Platform.warnings platform (chosen command rest settings) →
                text ∈ (run world seconds words).warnings) := by
  refine ⟨fun t r => ⟨isPrintable_lineOf_json t r, decode_lineOf_json t r⟩, jsonText_eq_iff,
    fun past level hlast future hfuture => ?_, fun world seconds words command a h => ?_⟩
  · rw [Console.writtenIn_eq (handlers_consoleAfter hlast) hfuture]
    exact inJsonLines_jsonText _
  obtain ⟨rest, g, hwords, hread, rfl⟩ := exists_readCommand_of_parse h
  have haccepted := accepted_of_readCommand hread
  have hrun : run world seconds words = .ofCommand command world seconds g.arguments := by
    rw [run, h]
  rw [hrun]
  have hnodup : (Outcome.ofCommand command world seconds g.arguments).warnings.Nodup :=
    Outcome.nodup_warnings_ofExecution _ _
  refine ⟨rest, hwords, fun e he hformat => ?_, fun settings hs hformat => ?_⟩
  · have hnone : (Outcome.ofCommand command world seconds g.arguments).warnings = [] := by
      rw [Outcome.ofCommand, haccepted.execute_of_error he]
      rfl
    have hwritten := haccepted.written_of_error seconds he
      (by rw [formatName_eq hread, hformat]; rfl)
    exact ⟨writesJson_of_written hwritten hnodup (by simp [hnone]), hnone⟩
  · have hwarns : ∀ text, text ∈ (Outcome.ofCommand command world seconds g.arguments).warnings ↔
        (reported command world g.arguments settings).Warns text := by
      intro text
      rw [Outcome.ofCommand, Outcome.mem_warnings_ofExecution, haccepted.execute_of_ok hs]
      rfl
    have hplatforms := fun text htext => exists_of_warns_reported haccepted ((hwarns text).mp htext)
    obtain ⟨level, records, final, hname, hemits, hends, hwritten⟩ :=
      haccepted.written_of_ok seconds hs ((formatName_eq hread _).trans hformat)
    refine ⟨level, records, final, hname, hemits, hends,
      writesJson_of_written hwritten hnodup fun text htext => ?_, hplatforms, ?_⟩
    · obtain ⟨platform, -, htext⟩ := hplatforms text htext
      exact Platform.break_notMem_of_mem_warnings htext
    · intro hcode platform text hplatform htext
      refine (hwarns text).mpr ?_
      cases hreport : (reported command world g.arguments settings).outcome with
      | ok report => exact warns_reported haccepted hreport hplatform htext
      | error e =>
        rw [Outcome.ofCommand, haccepted.execute_of_ok hs, Outcome.ofExecution, hreport] at hcode
        cases hcode

/-- A session whose messages have breaks, quotes and backslashes, and two runs: one whose settings
are refused, and one whose inventory is missing. -/
theorem jsonLines_readBack_breaks :
    let call : LogCall := ⟨25, "a\"b", "%s\nis %s", [.str "é", .str "\\"], 3723⟩
    let r : Record := ⟨25, "a\"b", "é\nis \\"⟩
    let world (level : String) : World :=
      ⟨fun _ => .missing, [("TARGETRUNNERS_LOGGING__LEVEL", level)]⟩
    let words := ["--devices", "a\n.yml", "--log-format", "json", "iOS"]
    let o (level : String) := run (world level) 0 ("match" :: words)
    InJsonLines ((consoleAfter [.configure "loud" "json"]).writtenIn [.log call, .log call])
      [(ofUnixSeconds 3723, r), (ofUnixSeconds 3723, r)] ∧
    (∃ e, WritesJson (o "loud") (timed 0 [failureRecord e])) ∧
    ∃ a settings level records final, settings.logging.format = "readable" ∧
      Emits (world "ERROR") words a settings .list records ∧
      Ends (world "ERROR") .list words a (o "ERROR").exitCode final ∧
      WritesJson (o "ERROR") (timed 0 (notBelow level (records ++ final))) := by
  intro call r world words o
  let settings : Settings := ⟨⟨false, false⟩, ⟨"ERROR", "readable"⟩⟩
  have hpassed : (consoleAfter [.configure "loud" "json"]).passedIn [.log call, .log call] =
      [(ofUnixSeconds 3723, r), (ofUnixSeconds 3723, r)] := by
    decide +kernel
  have hfits : (SessionStep.log call).InJson := by
    show call.record?.isSome = true
    decide +kernel
  have hsession := jsonLines_readBack.2.2.1 [.configure "loud" "json"] "loud" rfl
    [.log call, .log call] (by simp [hfits])
  rw [hpassed] at hsession
  have hloaded : ((parse ("match" :: words)).toOption.bind fun found => found.map fun found =>
      (found.1, (loadSettings (world "loud") found.2).toOption,
        (loadSettings (world "ERROR") found.2).toOption)) = some (.list, none, some settings) := by
    decide +kernel
  obtain ⟨found, hfound, hsome⟩ := Option.bind_eq_some_iff.mp hloaded
  obtain ⟨⟨command, a⟩, rfl, heq⟩ := Option.map_eq_some_iff.mp hsome
  obtain ⟨rfl, hsettings⟩ := Prod.mk.inj heq
  obtain ⟨hrefused, hsettings⟩ := Prod.mk.inj hsettings
  have h := eq_ok_of_toOption hfound
  have hformat : formatGiven .list words = some "json" := by decide +kernel
  refine ⟨hsession, ?_, ?_⟩
  · obtain ⟨rest, hwords, hrun, -⟩ := jsonLines_readBack.2.2.2 (world "loud") 0 _ _ _ h
    cases hwords
    cases he : loadSettings (world "loud") a with
    | error e => exact ⟨e, (hrun e he hformat).1⟩
    | ok settings =>
      rw [he] at hrefused
      cases hrefused
  · obtain ⟨rest, hwords, -, hrun⟩ := jsonLines_readBack.2.2.2 (world "ERROR") 0 _ _ _ h
    cases hwords
    obtain ⟨level, records, final, -, hemits, hends, hlines, -⟩ :=
      hrun settings (eq_ok_of_toOption hsettings) (by rw [hformat]; rfl)
    exact ⟨a, settings, level.number, records, final, rfl, hemits, hends, hlines⟩

/-- With one record in JSON a run writes three lines, two of which are about a platform whose set
seems to hold another one. A command line that is refused writes its usage although it gives the
format, and no record. -/
theorem jsonLines_readBack_fails :
    let world : World := ⟨fun _ => .file (Utf8.encode "[]".toList) "work", []⟩
    let origin : Origin := ⟨"matching", "compile"⟩
    let o := run world 0 ["match", "--devices", "d.yml", "--log-format", "json", "[[a]"]
    let refused := run world 0 ["match", "--log-format", "json"]
    o.written = ["\x7b\"ts\":\"1970-01-01T00:00:00\",\"level\":\"INFO\"," ++
        "\"logger\":\"target_runners.loaders\"," ++
        "\"msg\":\"[LOAD] inventory d.yml: 0 device(s)\"\x7d\n"] ∧
      o.warnings = ["Possible nested set at position 1"] ∧
      (o.standardError origin).toList.count '\n' = 3 ∧
      refused.exitCode = 2 ∧ 0 < (refused.standardError origin).toList.count '\n' := by
  intro world origin o refused
  have ho : o.chunks = [.written ("\x7b\"ts\":\"1970-01-01T00:00:00\",\"level\":\"INFO\"," ++
      "\"logger\":\"target_runners.loaders\"," ++
      "\"msg\":\"[LOAD] inventory d.yml: 0 device(s)\"\x7d\n"),
      .warning "Possible nested set at position 1"] := by
    decide +kernel
  have hrefused : refused.exitCode = 2 ∧ refused.chunks =
      [.written (usage (some .list) ++ "target-runners match: error: " ++
        "the following arguments are required: platform, --devices\n")] := by
    decide +kernel
  refine ⟨by rw [Outcome.written, ho]; rfl, by rw [Outcome.warnings, ho]; rfl, ?_, hrefused.1, ?_⟩
  · rw [Outcome.standardError, ho]
    decide +kernel
  · have hline : '\n' ∈ (refused.standardError origin).toList := by
      rw [Outcome.standardError, hrefused.2]
      decide +kernel
    exact List.count_pos_iff.mpr hline

end RunnerAtlas.CommandLine
