/-!
# Options of the command line

The program has two commands, each with its options. An option is spelled with one or two hyphens,
and some take a text.

## Main definitions

* `RunnerAtlas.CommandLine.Flag` — the options, with `Flag.spellings` and `Flag.takesText`.
* `RunnerAtlas.CommandLine.Command` — the commands, with `Command.flags`.
-/

set_option autoImplicit false

namespace RunnerAtlas.CommandLine

/-- The options. -/
inductive Flag where
  /-- Shows how the program is used. -/
  | help
  /-- The file of the project. -/
  | project
  /-- The file of the inventory. -/
  | devices
  /-- The file of the settings. -/
  | config
  /-- Letter case is ignored. -/
  | ignoreCase
  /-- Platforms are literal texts. -/
  | literal
  /-- Devices that are not available are left out. -/
  | availableOnly
  /-- The format of records. -/
  | logFormat
  deriving DecidableEq

namespace Flag

/-- The spellings of an option. -/
def spellings : Flag → List String
  | help => ["-h", "--help"]
  | project => ["--project"]
  | devices => ["--devices"]
  | config => ["--config"]
  | ignoreCase => ["--ignore-case"]
  | literal => ["--literal"]
  | availableOnly => ["--available-only"]
  | logFormat => ["--log-format"]

/-- The name of an option, as messages give it. -/
def name (f : Flag) : String := String.intercalate "/" f.spellings

/-- Whether an option takes a text. -/
def takesText : Flag → Bool
  | project => true
  | devices => true
  | config => true
  | logFormat => true
  | _ => false

end Flag

/-- The commands. -/
inductive Command where
  /-- Resolves the targets of a project. -/
  | resolve
  /-- Lists the runners of a platform. -/
  | list
  deriving DecidableEq

namespace Command

/-- The word for a command. -/
def word : Command → String
  | resolve => "resolve"
  | list => "match"

/-- All commands. -/
def all : List Command := [resolve, list]

/-- The command that a word stands for. -/
def ofWord? (word : String) : Option Command := all.find? fun command => command.word == word

/-- The options of both commands. -/
def sharedFlags : List Flag :=
  [.devices, .config, .ignoreCase, .literal, .availableOnly, .logFormat]

/-- The options of a command. -/
def flags : Command → List Flag
  | resolve => .help :: .project :: sharedFlags
  | list => .help :: sharedFlags

/-- Whether a command takes a platform. -/
def takesPlatform : Command → Bool
  | resolve => false
  | list => true

/-- A word stands for at most one command, whose word it is. -/
theorem ofWord?_eq_some_iff (w : String) (c : Command) : ofWord? w = some c ↔ w = c.word := by
  constructor
  · intro h
    have h : all.find? (fun command => command.word == w) = some c := h
    have h := List.find?_some h
    exact (eq_of_beq h).symm
  · rintro rfl
    cases c <;> decide

end Command

end RunnerAtlas.CommandLine
