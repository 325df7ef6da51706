import RunnerAtlas.CommandLine.Flag
import RunnerAtlas.Text.Quoted

/-!
# Usage texts

How the program and its commands are used, and what is wrong with a command line.

## Main definitions

* `RunnerAtlas.CommandLine.program` — the name of the program or of one of its commands.
* `RunnerAtlas.CommandLine.usage`, `RunnerAtlas.CommandLine.help` — how it is used, in short and in
  full.
* `RunnerAtlas.CommandLine.UsageFault` — what is wrong with a command line.
* `RunnerAtlas.CommandLine.Halt` — why a command line leads to no command.
-/

set_option autoImplicit false

namespace RunnerAtlas.CommandLine

open RunnerAtlas.Text

/-- The name of the program, or of one of its commands. -/
def program (scope : Option Command) : String :=
  match scope with
  | none => "target-runners"
  | some command => s!"target-runners {command.word}"

/-- The choice between words, between braces. -/
def choice (words : List String) : String := "\x7b" ++ String.intercalate "," words ++ "\x7d"

/-- The words for commands. -/
def commandWords : List String := Command.all.map Command.word

/-- The names of formats of records. -/
def formatWords : List String := ["readable", "json"]

/-- Lines as one text. -/
def unlines (lines : List String) : String := String.join (lines.map (· ++ "\n"))

/-- The lines that show how the program or a command is used. -/
def usageLines : Option Command → List String
  | none => [s!"usage: target-runners [-h] {choice commandWords} ..."]
  | some .resolve =>
    ["usage: target-runners resolve [-h] --project PROJECT --devices DEVICES",
      "                              [--config CONFIG] [--ignore-case] [--literal]",
      "                              [--available-only]",
      s!"                              [--log-format {choice formatWords}]"]
  | some .list =>
    ["usage: target-runners match [-h] --devices DEVICES [--config CONFIG]",
      "                            [--ignore-case] [--literal] [--available-only]",
      s!"                            [--log-format {choice formatWords}]",
      "                            platform"]

/-- How the program or a command is used. -/
def usage (scope : Option Command) : String := unlines (usageLines scope)

/-- The lines on an option in the help of a command. -/
def flagLines : Flag → List String
  | .help => ["  -h, --help            show this help message and exit"]
  | .project => ["  --project PROJECT     Project definition file"]
  | .devices => ["  --devices DEVICES     Device inventory file"]
  | .config => ["  --config CONFIG       Config YAML override"]
  | .ignoreCase => ["  --ignore-case         Match platforms case-insensitively"]
  | .literal =>
    ["  --literal             Match platforms as plain substrings instead of",
      "                        patterns"]
  | .availableOnly => ["  --available-only      Ignore devices whose runtime is unavailable"]
  | .logFormat =>
    [s!"  --log-format {choice formatWords}", "                        Terminal log format"]

/-- The lines on what the program or a command takes. -/
def sectionLines : Option Command → List String
  | none =>
    ["", "List the simulators and devices each project target can run on", "",
      "positional arguments:", s!"  {choice commandWords}",
      "    resolve        Resolve runners for every target",
      "    match          List runners for a single platform", "", "options:",
      "  -h, --help       show this help message and exit"]
  | some command =>
    let platform :=
      if command.takesPlatform then
        ["", "positional arguments:", "  platform              Platform pattern, e.g. iOS"]
      else []
    platform ++ ["", "options:"] ++ command.flags.flatMap flagLines

/-- The help on the program or on a command. -/
def help (scope : Option Command) : String := unlines (usageLines scope ++ sectionLines scope)

/-- What is wrong with a command line. -/
inductive UsageFault where
  /-- A word abbreviates several options. -/
  | ambiguous (word : String) (spellings : List String)
  /-- An option lacks its text. -/
  | noText (flag : Flag)
  /-- An option that takes no text has one. -/
  | strayText (flag : Flag) (text : String)
  /-- There is no such format. -/
  | noFormat (text : String)
  /-- There is no such command. -/
  | noCommand (word : String)
  /-- Arguments are missing. -/
  | missing (names : List String)
  /-- Words mean nothing. -/
  | unknown (words : List String)
  deriving DecidableEq

/-- The message about a word that is none of several. -/
def noChoice (name word : String) (choices : List String) : String :=
  s!"argument {name}: invalid choice: {Quoted.ofText word} (choose from " ++
    String.intercalate ", " (choices.map Quoted.ofText) ++ ")"

/-- The message about a fault. -/
def UsageFault.message : UsageFault → String
  | ambiguous word spellings =>
    s!"ambiguous option: {word} could match " ++ String.intercalate ", " spellings
  | noText flag => s!"argument {flag.name}: expected one argument"
  | strayText flag text => s!"argument {flag.name}: ignored explicit argument {Quoted.ofText text}"
  | noFormat text => noChoice Flag.logFormat.name text formatWords
  | noCommand word => noChoice "command" word commandWords
  | missing names => "the following arguments are required: " ++ String.intercalate ", " names
  | unknown words => "unrecognized arguments: " ++ String.intercalate " " words

/-- Why a command line leads to no command. -/
inductive Halt where
  /-- It asks for help. -/
  | help (scope : Option Command)
  /-- Something is wrong with it. -/
  | refused (scope : Option Command) (fault : UsageFault)
  deriving DecidableEq

namespace Halt

/-- The exit code. -/
def exitCode : Halt → Nat
  | help _ => 0
  | refused _ _ => 2

/-- What is written as output. -/
def output : Halt → String
  | help scope => CommandLine.help scope
  | refused _ _ => ""

/-- What is written as errors. -/
def errors : Halt → String
  | help _ => ""
  | refused scope fault => usage scope ++ s!"{program scope}: error: {fault.message}\n"

end Halt

end RunnerAtlas.CommandLine
