import RunnerAtlas.Proofs.CommandLine.Stages
import RunnerAtlas.Proofs.Settings.Switches

set_option relaxedAutoImplicit false
set_option autoImplicit false

/-!
# Three ways to turn a switch on

The switches that choose how platforms are matched can be turned on by an option of the command
line, by the document with the settings, or by a variable. The three ways lead to the same outcome
of a command: its exit code, its output and its records.

## Main definitions

* `RunnerAtlas.MatchSwitch.flag`, `RunnerAtlas.MatchSwitch.give` — the option of a switch, and
  arguments with it given.

## Main results

* `RunnerAtlas.CommandLine.gather_raise` — an option that takes no text may be given first.
* `RunnerAtlas.MatchSwitch.parse_spelling` — a command line with the option of a switch.
* `RunnerAtlas.CommandLine.run_switched` — the three ways lead to the same outcome.
-/

namespace RunnerAtlas

open Outcome RunnerAtlas.Text

namespace CommandLine

/-! ### Options in any order -/

/-- The platform may be read before an option is raised. -/
lemma platform_raise (g : Gathered) (flag : Flag) (text : String) :
    (g.raise flag).platform text = (g.platform text).raise flag := by
  cases flag <;> rfl

/-- A word may be skipped before an option is raised. -/
lemma skip_raise (g : Gathered) (flag : Flag) (word : String) :
    (g.raise flag).skip word = (g.skip word).raise flag := by
  cases flag <;> rfl

/-- A value may be assigned before an option is raised. -/
lemma assign_raise (g : Gathered) (flag other : Flag) (v : Value) :
    (g.raise flag).assign other v = (g.assign other v).raise flag := by
  cases flag <;> cases other <;> rfl

/-- Two options may be raised in either order. -/
lemma raise_raise (g : Gathered) (flag other : Flag) :
    (g.raise flag).raise other = (g.raise other).raise flag := by
  cases flag <;> cases other <;> rfl

/-- To raise an option leaves the platform alone. -/
lemma arguments_platform_raise (g : Gathered) (flag : Flag) :
    (g.raise flag).arguments.platform = g.arguments.platform := by
  cases flag <;> rfl

/-- An option that takes a text comes to the same before or after another one is raised. -/
lemma assignFlag_raise (scope : Option Command) (g : Gathered) (flag other : Flag) (text : String) :
    assignFlag scope (g.raise flag) other text =
      (assignFlag scope g other text).map fun g => g.raise flag := by
  unfold assignFlag
  cases valueOf other text with
  | error fault => rfl
  | ok v => exact congrArg _ (assign_raise g flag other v)

/-- An option that takes no text comes to the same before or after another one is raised. -/
lemma raiseFlag_raise (scope : Option Command) (g : Gathered) (flag other : Flag) (direct : Bool)
    (attached : Option String) :
    raiseFlag scope (g.raise flag) other direct attached =
      (raiseFlag scope g other direct attached).map fun g => g.raise flag := by
  unfold raiseFlag
  dsimp only
  split
  · rfl
  · split
    · rfl
    · exact congrArg _ (raise_raise g flag other)

/-- **Options in any order.** An option that takes no text may be raised before the words are
gathered or after that.

**Proof sketch.** Induction along `gather`: each of its steps may be taken before or after the
option is raised. -/
theorem gather_raise (command : Command) (ws : List Word) (g : Gathered) (flag : Flag) :
    gather command ws (g.raise flag) = (gather command ws g).map fun g => g.raise flag := by
  have hplatform := arguments_platform_raise
  fun_induction gather command ws g with
  | case1 => rfl
  | case2 text rest g h ih => rw [gather, if_pos (by rwa [hplatform]), platform_raise, ih]
  | case3 text rest g h ih => rw [gather, if_neg (by rwa [hplatform]), skip_raise, skip_raise, ih]
  | case4 text rest g hrest h ih =>
    rw [gather, if_pos (by rwa [hplatform]), platform_raise, ih]
    exact hrest
  | case5 text rest g hrest h ih =>
    rw [gather, if_neg (by rwa [hplatform]), skip_raise, ih]
    exact hrest
  | case6 text rest g h ih => rw [gather, if_pos (by rwa [hplatform]), platform_raise, ih]
  | case7 text rest g h ih => rw [gather, if_neg (by rwa [hplatform]), skip_raise, skip_raise, ih]
  | case8 rest g hrest ih =>
    rw [gather, skip_raise, ih]
    exact hrest
  | case9 text rest g ih => rw [gather, skip_raise, ih]
  | case10 other direct g hother text rest ih =>
    rw [gather, if_pos hother, assignFlag_raise]
    cases assignFlag (some command) g other text with
    | error halt => rfl
    | ok g' => exact ih g'
  | case11 other direct g hother text rest ih =>
    rw [gather, if_pos hother, assignFlag_raise]
    cases assignFlag (some command) g other text with
    | error halt => rfl
    | ok g' => exact ih g'
  | case12 other direct rest g hother hrest =>
    rw [gather, if_pos hother]
    · rfl
    · exact hrest
  | case13 other direct attached rest g hother ih =>
    rw [gather.eq_def]
    dsimp only
    rw [if_neg hother, raiseFlag_raise]
    cases raiseFlag (some command) g other direct attached with
    | error halt => rfl
    | ok g' => exact ih g'

end CommandLine

open CommandLine

/-! ### The option of a switch -/

namespace MatchSwitch

/-- The option of a switch. -/
def flag : MatchSwitch → Flag
  | ignoreCase => .ignoreCase
  | literal => .literal

/-- Arguments with the option of a switch given. -/
def give (s : MatchSwitch) (a : Arguments) : Arguments :=
  match s with
  | ignoreCase => { a with ignoreCase := some (.bool true) }
  | literal => { a with literal := some (.bool true) }

variable {s : MatchSwitch} {command : Command} {spelling : String}

/-- To raise the option of a switch gives it. -/
lemma arguments_raise (s : MatchSwitch) (g : Gathered) :
    (g.raise s.flag).arguments = s.give g.arguments ∧ (g.raise s.flag).unknown = g.unknown := by
  cases s <;> exact ⟨rfl, rfl⟩

/-- What a command cannot do without is something else than the option of a switch. -/
lemma needed_give (s : MatchSwitch) (command : Command) (a : Arguments) :
    needed command (s.give a) = needed command a := by
  cases s <;> rfl

/-- The words of a command are read alike after the option of a switch, which is given. -/
lemma readCommand_spelling (hspelling : spelling ∈ s.flag.spellings) (rest : List String) :
    readCommand command (spelling :: rest) =
      (readCommand command rest).map fun g => g.raise s.flag := by
  have hflag : s.flag ∈ command.flags := by cases s <;> cases command <;> decide
  obtain ⟨hne, direct, hread⟩ := Word.read_spelling hflag hspelling
  unfold readCommand
  rw [Word.readAll, if_neg hne, hread]
  cases Word.readAll command.flags rest with
  | error fault => rfl
  | ok readings =>
    have hother : ¬ s.flag.takesText = true := by cases s <;> decide
    have hraise : ∀ g, raiseFlag (some command) g s.flag direct none = .ok (g.raise s.flag) := by
      intro g
      cases s <;> rfl
    simp only [bind, Except.bind, pure, Except.pure]
    rw [gather.eq_def]
    simp only [if_neg hother, hraise, bind, Except.bind, gather_raise]
    cases gather command readings ⟨{ command := some (.str command.word) }, []⟩ with
    | error halt => rfl
    | ok g =>
      simp only [Except.map, s.arguments_raise, needed_give]
      cases (needed command g.arguments).filter fun need => !need.2 with
      | nil => cases s <;> rfl
      | cons need rest => rfl

end MatchSwitch

namespace CommandLine

/-- The word for a command is followed by what its words are read as, if all words can be read. -/
lemma parse_word (command : Command) (rest : List String) :
    parse (command.word :: rest) = match Word.readAll [.help] rest with
      | .error fault => .error (.refused none fault)
      | .ok _ => readCommand command rest >>= fun g =>
        settle (some (command, g.arguments)) g.unknown := by
  have hread : command.word ≠ Word.markText ∧
      Word.read [.help] command.word = .ok (.text command.word) := by
    cases command <;> decide
  unfold parse
  rw [Word.readAll, if_neg hread.1, hread.2]
  cases hrest : Word.readAll [.help] rest with
  | error fault => rfl
  | ok readings =>
    have hwords : (rest.zip readings).map Prod.fst = rest :=
      List.map_fst_zip (Nat.le_of_eq (Word.readAll_eq_ok hrest).1.symm)
    show parseFrom ((command.word, .text command.word) :: rest.zip readings) [] = _
    rw [parseFrom, (Command.ofWord?_eq_some_iff _ _).mpr rfl, hwords]
    rfl

end CommandLine

namespace MatchSwitch

variable {s : MatchSwitch} {command : Command} {spelling : String}

/-- A command line with the option of a switch right after the command is read as the one without
it, with the option given. -/
lemma parse_spelling (hspelling : spelling ∈ s.flag.spellings) (rest : List String) :
    parse (command.word :: spelling :: rest) =
      (parse (command.word :: rest)).map (Option.map fun found => (found.1, s.give found.2)) := by
  have hread : spelling ≠ Word.markText ∧
      Word.read [.help] spelling = .ok (.unknown spelling) := by
    cases s <;> obtain rfl := List.mem_singleton.mp hspelling <;> decide
  have hall : Word.readAll [.help] (spelling :: rest) =
      (Word.readAll [.help] rest).map fun readings => .unknown spelling :: readings := by
    rw [Word.readAll, if_neg hread.1, hread.2]
    cases Word.readAll [.help] rest <;> rfl
  rw [parse_word, parse_word, hall, readCommand_spelling hspelling]
  cases Word.readAll [.help] rest with
  | error fault => rfl
  | ok readings =>
    cases readCommand command rest with
    | error halt => rfl
    | ok g =>
      show settle (some (command, (g.raise s.flag).arguments)) (g.raise s.flag).unknown =
        (settle (some (command, g.arguments)) g.unknown).map _
      rw [(s.arguments_raise g).1, (s.arguments_raise g).2]
      unfold settle
      split <;> rfl

/-! ### Settings of a command -/

/-- The switch is on by its option, or by the settings if its option is not given. -/
lemma matchOptions_give {words : List String} {a : Arguments} (h : Accepted command words a)
    (hgiven : given command words s.flag = false) (c : Settings) :
    a.matchOptions (s.turnOn c) = (s.give a).matchOptions c := by
  cases s with
  | ignoreCase =>
    have hnone := h.ignoreCase_eq
    rw [show given command words .ignoreCase = false from hgiven] at hnone
    simp only [Arguments.matchOptions, turnOn, give, hnone]
    rfl
  | literal =>
    have hnone := h.literal_eq
    rw [show given command words .literal = false from hgiven] at hnone
    simp only [Arguments.matchOptions, turnOn, give, hnone]
    rfl

end MatchSwitch

namespace CommandLine

variable {world world' : World} {command : Command} {a a' : Arguments} {c c' : Settings}

/-- The settings of a command, with a file for them or with none. -/
lemma loadSettings_of_config {path? : Option String} (hconfig : a.config = path?.map .str)
    (h : Settings.load world.files world.environment path? = .ok c) :
    loadSettings world a = .ok c := by
  have hload : loadSettings world a =
      (Settings.load world.files world.environment path?).mapError .settings := by
    rw [loadSettings, hconfig]
    cases path? <;> rfl
  rw [hload, h]
  rfl

/-- What a command reports depends on its project, its devices, its platform and on how platforms
are matched. -/
lemma reported_congr (hproject : loadProject world' a' = loadProject world a)
    (hdevices : loadDevices world' a' = loadDevices world a) (hplatform : a'.platform = a.platform)
    (hoptions : a'.matchOptions c' = a.matchOptions c) :
    reported command world' a' c' = reported command world a c := by
  simp only [reported, entries, runners, hproject, hdevices, hplatform, hoptions]

/-- The outcome of a command depends on what it reports and on how its console is configured. -/
lemma ofCommand_congr {words words' : List String} (h : Accepted command words a)
    (h' : Accepted command words' a') (hc : loadSettings world a = .ok c)
    (hc' : loadSettings world' a' = .ok c') (hformat : a'.logFormat = a.logFormat)
    (hlogging : c'.logging = c.logging)
    (hreported : reported command world' a' c' = reported command world a c) (seconds : Int) :
    Outcome.ofCommand command world' seconds a' = Outcome.ofCommand command world seconds a := by
  have hname : ∀ fallback, a'.formatName fallback = a.formatName fallback := by
    simp only [Arguments.formatName, hformat, implies_true]
  rw [Outcome.ofCommand, Outcome.ofCommand, h.execute_of_ok hc, h'.execute_of_ok hc', hreported]
  simp only [startingConsole, configured, hname, hlogging]

/-! ### Files with another document for the settings -/

section Files

variable {files files' : Files} {octets octets' : List UInt8} {entries : Mapping} {s : Setting}
  {v : Value}

/-- Files that hold the same, but for a document that stores another value for a setting. -/
def Restored (files files' : Files) (octets octets' : List UInt8) : Prop :=
  ∀ p, files' p = files p ∨
    ∃ folder, files p = .file octets folder ∧ files' p = .file octets' folder

/-- At each path there is the same document, or one in place of the other. -/
lemma Restored.document_cases (h : Restored files files' octets octets') {data data' : Value}
    (hdata : Document.read octets = .ok data) (hdata' : Document.read octets' = .ok data')
    (p : Path) : Loading.document files' p = Loading.document files p ∨
      ∃ folder, Loading.document files p = .ok (data, folder) ∧
        Loading.document files' p = .ok (data', folder) := by
  rcases h p with hsame | ⟨folder, hfile, hfile'⟩
  · exact .inl (by rw [Loading.document, Loading.document, hsame])
  · exact .inr ⟨folder, by simp only [Loading.document, hfile, hdata],
      by simp only [Loading.document, hfile', hdata']⟩

/-- A document with another value for a setting defines the same project. -/
lemma project_store (entries : Mapping) (s : Setting) (v : Value) (fallback : Option String) :
    Definition.project (.map (s.store entries v)) fallback =
      Definition.project (.map entries) fallback := by
  have htargets := Setting.find?_store_of_ne
    (show "targets" ≠ s.group by cases s <;> decide) entries v
  have hname := Setting.find?_store_of_ne
    (show "name" ≠ s.group by cases s <;> decide) entries v
  have hown : Mapping.findD (s.store entries v) "name" = Mapping.findD entries "name" := by
    rw [Mapping.findD, Mapping.findD, hname]
  have hnameOf : Definition.nameOf (s.store entries v) fallback =
      Definition.nameOf entries fallback := by
    unfold Definition.nameOf
    rw [hown]
  simp only [Definition.project, htargets, hnameOf]

/-- A document with another value for a setting lists the same devices. -/
lemma devices_store (entries : Mapping) (s : Setting) (v : Value) (availableOnly : Bool) :
    Listing.devices (.map (s.store entries v)) availableOnly =
      Listing.devices (.map entries) availableOnly := by
  have hdevices := Setting.find?_store_of_ne
    (show "devices" ≠ s.group by cases s <;> decide) entries v
  simp only [Listing.devices, Listing.allDevices, hdevices]

variable (h : Restored files files' octets octets')
  (hdata : Document.read octets = .ok (.map entries))
  (hdata' : Document.read octets' = .ok (.map (s.store entries v)))

include h hdata hdata'

/-- A command finds the same project. -/
lemma loadProject_restored (env env' : Environment) (a : Arguments) :
    loadProject ⟨files', env'⟩ a = loadProject ⟨files, env⟩ a := by
  have hproject : ∀ path, Loading.readProject files' path = Loading.readProject files path := by
    intro path
    unfold Loading.readProject
    rcases h.document_cases hdata hdata' (.ofText path) with hsame | ⟨folder, hold, hnew⟩
    · rw [hsame]
    · rw [hold, hnew]
      exact congrArg (fun x => x.mapError LoadError.definition)
        (project_store entries s v (some folder))
  simp only [loadProject, Loading.project, hproject]

/-- A command finds the same devices. -/
lemma loadDevices_restored (env env' : Environment) (a : Arguments) :
    loadDevices ⟨files', env'⟩ a = loadDevices ⟨files, env⟩ a := by
  have hdevices : ∀ path availableOnly, Loading.readDevices files' path availableOnly =
      Loading.readDevices files path availableOnly := by
    intro path availableOnly
    unfold Loading.readDevices
    rcases h.document_cases hdata hdata' (.ofText path) with hsame | ⟨folder, hold, hnew⟩
    · rw [hsame]
    · rw [hold, hnew]
      exact congrArg (fun x => x.mapError LoadError.inventory)
        (devices_store entries s v availableOnly)
  simp only [loadDevices, Loading.devices, hdevices]

end Files

/-- Files that hold the same, but for a document at a path that has other entries, there and
wherever else it stands. -/
def Rewritten (files files' : Files) (path : String) (entries entries' : Mapping) : Prop :=
  ∃ octets octets' folder, files (.ofText path) = .file octets folder ∧
    Document.read octets = .ok (.map entries) ∧ files' (.ofText path) = .file octets' folder ∧
    Document.read octets' = .ok (.map entries') ∧ Restored files files' octets octets'

/-! ### Outcomes -/

/-- With a switch on in its settings a command line has the outcome of one with its option, if it
finds the same project and the same devices. -/
lemma run_turnOn {s : MatchSwitch} {words words' rest : List String} {files files' : Files}
    {env env' : Environment} {path? : Option String}
    (haccepted : Accepted command rest a) (hgiven : given command rest s.flag = false)
    (hwords : parse words = .ok (some (command, s.give a)))
    (hwords' : parse words' = .ok (some (command, { a with config := path?.map .str })))
    (hload : loadSettings ⟨files, env⟩ (s.give a) = .ok c)
    (hload' : Settings.load files' env' path? = .ok (s.turnOn c))
    (hproject : loadProject ⟨files', env'⟩ a = loadProject ⟨files, env⟩ a)
    (hdevices : loadDevices ⟨files', env'⟩ a = loadDevices ⟨files, env⟩ a) (seconds : Int) :
    run ⟨files', env'⟩ seconds words' = run ⟨files, env⟩ seconds words := by
  obtain ⟨_, -, hgive⟩ := parse_eq_ok_some hwords
  obtain ⟨_, -, hplain⟩ := parse_eq_ok_some hwords'
  have hsame : (s.give a).platform = a.platform ∧ (s.give a).logFormat = a.logFormat ∧
      (s.turnOn c).logging = c.logging := by
    cases s <;> exact ⟨rfl, rfl, rfl⟩
  have hproject' : ∀ world, loadProject world (s.give a) = loadProject world a := by
    cases s <;> exact fun _ => rfl
  have hdevices' : ∀ world, loadDevices world (s.give a) = loadDevices world a := by
    cases s <;> exact fun _ => rfl
  let a' : Arguments := { a with config := path?.map .str }
  have hsettings : loadSettings ⟨files', env'⟩ a' = .ok (s.turnOn c) :=
    loadSettings_of_config (show a'.config = path?.map .str from rfl) hload'
  have hreported : reported command ⟨files', env'⟩ a' (s.turnOn c) =
      reported command ⟨files, env⟩ (s.give a) c :=
    reported_congr (hproject.trans (hproject' _).symm) (hdevices.trans (hdevices' _).symm)
      hsame.1.symm (s.matchOptions_give haccepted hgiven c)
  rw [run, run, hwords', hwords]
  exact ofCommand_congr hgive hplain hload hsettings hsame.2.1.symm hsame.2.2 hreported seconds

/-- **Three ways to turn a switch on.** Take a command line without the option of a switch, and a
document with its settings, whose keys are texts, that leaves the switch out or stores a truth value
for it, from which settings are loaded, and where no other keys lead to the variable of the switch,
which is not set. If the command line names no file for the settings, there are no entries. Then
three runs have the same outcome: the one of the command line with the option of the switch as well,
the one with the word for truth in the variable, and the one where the document stores that the
switch is on. For this the document is rewritten, or, if there is none, the command line names one
that holds the defaults with the switch on. The option may be given right after the command.

**Proof sketch.** With the document and with the variable the settings are those with the switch on
(`MatchSwitch.layered_store`, `MatchSwitch.layered_set`), so that platforms are matched as under the
option, and all else that the command reports is the same (`run_turnOn`). -/
theorem run_switched {s : MatchSwitch} {command : Command} {rest : List String} {a : Arguments}
    {files : Files} {env : Environment} {path? : Option String} {entries : Mapping}
    (hparse : parse (command.word :: rest) = .ok (some (command, a)))
    (hgiven : given command rest s.flag = false) (hconfig : a.config = path?.map .str)
    (hdocument : Settings.IsDocument files path? entries) (hkeys : (Value.map entries).TextKeyed)
    (hload : ∃ c, Settings.load files env path? = .ok c)
    (hunset : env.lookup s.setting.variableName = none) (hplain : s.IsPlain entries)
    (halone : s.IsAlone entries) :
    (∀ spelling ∈ s.flag.spellings,
      parse (command.word :: spelling :: rest) = .ok (some (command, s.give a))) ∧
    ∀ words, parse words = .ok (some (command, s.give a)) → ∀ seconds,
      run ⟨files, (s.setting.variableName, "true") :: env⟩ seconds (command.word :: rest) =
        run ⟨files, env⟩ seconds words ∧
      (∀ path files', path? = some path →
        Rewritten files files' path entries (s.setting.store entries (.bool true)) →
        run ⟨files', env⟩ seconds (command.word :: rest) = run ⟨files, env⟩ seconds words) ∧
      (path? = none → ∀ path words',
        parse words' = .ok (some (command, { a with config := some (.str path) })) →
        Settings.IsDocument files (some path)
          (s.setting.store Settings.standard.toMapping (.bool true)) →
        run ⟨files, env⟩ seconds words' = run ⟨files, env⟩ seconds words) := by
  refine ⟨fun spelling hspelling => ?_, fun words hwords seconds => ?_⟩
  · rw [s.parse_spelling hspelling, hparse]
    rfl
  obtain ⟨_, hrest, haccepted⟩ := parse_eq_ok_some hparse
  cases hrest
  obtain ⟨c, hload⟩ := hload
  have hlayered : Settings.layered env entries = .ok c := by rwa [hdocument.load_eq] at hload
  have hgive : loadSettings ⟨files, env⟩ (s.give a) = .ok c :=
    loadSettings_of_config ((show (s.give a).config = a.config by cases s <;> rfl).trans hconfig)
      hload
  rw [show a = { a with config := path?.map .str } by rw [← hconfig]] at hparse
  refine ⟨?_, ?_, ?_⟩
  · have hload' : Settings.load files ((s.setting.variableName, "true") :: env) path? =
        .ok (s.turnOn c) := by
      rw [hdocument.load_eq]
      exact s.layered_set hdocument.wellKeyed hkeys hplain halone hlayered
    exact run_turnOn haccepted hgiven hwords hparse hgive hload' rfl rfl seconds
  · rintro path files' rfl ⟨octets, octets', folder, -, hdata, hfile', hdata', hfiles⟩
    have hdocument' : Settings.IsDocument files' (some path) _ := .mapping hfile' hdata'
    have hload' : Settings.load files' env (some path) = .ok (s.turnOn c) := by
      rw [hdocument'.load_eq]
      exact s.layered_store hdocument.wellKeyed hdocument'.wellKeyed hunset hlayered
    exact run_turnOn haccepted hgiven hwords hparse hgive hload'
      (loadProject_restored hfiles hdata hdata' env env a)
      (loadDevices_restored hfiles hdata hdata' env env a) seconds
  · rintro rfl path words' hwords' hdocument'
    have hload' : Settings.load files env (some path) = .ok (s.turnOn c) := by
      cases hdocument
      rw [← MatchSwitch.layered_standard] at hlayered
      rw [hdocument'.load_eq]
      exact s.layered_store MatchSwitch.wellKeyed_standard hdocument'.wellKeyed hunset hlayered
    exact run_turnOn haccepted hgiven hwords hwords' hgive hload' rfl rfl seconds

/-- A file that is inventory and settings at once, with no section for the switches. -/
theorem run_switched_without_section :
    let octets := Utf8.encode "devices: \x7biOS-17: [\x7bname: A, udid: B\x7d]\x7d\n".toList
    let octets' := Utf8.encode ("devices: \x7biOS-17: [\x7bname: A, udid: B\x7d]\x7d\n" ++
      "matching: \x7bignore_case: true\x7d\n").toList
    let rest := ["--devices", "all.yml", "ios", "--config", "all.yml"]
    let env : Environment := [("TARGETRUNNERS_LOGGING__LEVEL", "ERROR")]
    let o := run ⟨fun _ => .file octets "work", env⟩ 0 ("match" :: "--ignore-case" :: rest)
    o.output = "[\n  \x7b\n    \"name\": \"A\",\n    \"udid\": \"B\"\n  \x7d\n]\n" ∧
      run ⟨fun _ => .file octets' "work", env⟩ 0 ("match" :: rest) = o ∧
      run ⟨fun _ => .file octets "work", ("TARGETRUNNERS_MATCHING__IGNORE_CASE", "true") :: env⟩ 0
        ("match" :: rest) = o := by
  intro octets octets' rest env o
  let entries : Mapping := [(.str "devices", .map [(.str "iOS-17",
    .list [.map [(.str "name", .str "A"), (.str "udid", .str "B")]])])]
  have hparsed : ((parse (Command.list.word :: rest)).toOption.bind fun found =>
      found.map fun found => (found.1, found.2.config)) = some (.list, some (.str "all.yml")) := by
    decide +kernel
  obtain ⟨found, hfound, hsome⟩ := Option.bind_eq_some_iff.mp hparsed
  obtain ⟨⟨command, a⟩, rfl, heq⟩ := Option.map_eq_some_iff.mp hsome
  obtain ⟨rfl, hconfig⟩ := Prod.mk.inj heq
  have hdata : Document.read octets = .ok (.map entries) := eq_ok_of_toOption (by decide +kernel)
  have hdata' : Document.read octets' =
      .ok (.map (MatchSwitch.ignoreCase.setting.store entries (.bool true))) :=
    eq_ok_of_toOption (by decide +kernel)
  have hload : Settings.load (fun _ => .file octets "work") env (some "all.yml") =
      .ok ⟨⟨false, false⟩, ⟨"ERROR", "readable"⟩⟩ := eq_ok_of_toOption (by decide +kernel)
  have hkeys : (Value.map entries).TextKeyed :=
    .map (by simp [entries]) (by simpa [entries] using .map (by simp) (by simpa using .atom nofun))
  have halone : MatchSwitch.ignoreCase.IsAlone entries := by
    intro l hl hname
    have hpath : Override.variableName (Override.pathOf (.str "") l.1) =
        .ok "TARGETRUNNERS_DEVICES__IOS-17" := by
      obtain rfl := List.mem_singleton.mp hl
      exact eq_ok_of_toOption (by decide +kernel)
    exact absurd (Except.ok.inj (hpath.symm.trans hname)) (by decide +kernel)
  obtain ⟨hgive, hruns⟩ := run_switched (eq_ok_of_toOption hfound) (by decide +kernel)
    (show a.config = (some "all.yml").map .str from hconfig) (.mapping rfl hdata) hkeys ⟨_, hload⟩
    rfl (by rintro v ⟨⟩) halone
  obtain ⟨hvariable, hdocument, -⟩ := hruns _ (hgive "--ignore-case" (by decide)) 0
  exact ⟨by decide +kernel, hdocument "all.yml" _ rfl
    ⟨octets, octets', "work", rfl, hdata, rfl, hdata', fun _ => .inr ⟨_, rfl, rfl⟩⟩, hvariable⟩

end CommandLine

end RunnerAtlas
