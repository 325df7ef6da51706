import RunnerAtlas.CommandLine.Arguments
import RunnerAtlas.CommandLine.Word

/-!
# Reading a command line

The first text of a command line names a command, and the words after it are read among the
options of that command. Words that mean nothing are gathered and refused at the end. An attached
mark is a text like others, and the option for help is taken whatever letters follow it.

## Main definitions

* `RunnerAtlas.CommandLine.Gathered` — what has been read so far.
* `RunnerAtlas.CommandLine.readCommand` — the words of a command.
* `RunnerAtlas.CommandLine.parse` — a command line.
-/

set_option autoImplicit false

namespace RunnerAtlas.CommandLine

/-- What has been read so far: arguments, and words that mean nothing. -/
structure Gathered where
  /-- The arguments. -/
  arguments : Arguments
  /-- The words that mean nothing, in order. -/
  unknown : List String

namespace Gathered

/-- One more word that means nothing. -/
def skip (g : Gathered) (word : String) : Gathered := { g with unknown := g.unknown ++ [word] }

/-- The platform. -/
def platform (g : Gathered) (text : String) : Gathered :=
  { g with arguments := { g.arguments with platform := some (.str text) } }

/-- An option that takes a text, with the value of it. -/
def assign (g : Gathered) (flag : Flag) (v : Value) : Gathered :=
  let a := g.arguments
  match flag with
  | .project => { g with arguments := { a with project := some v } }
  | .devices => { g with arguments := { a with devices := some v } }
  | .config => { g with arguments := { a with config := some v } }
  | .logFormat => { g with arguments := { a with logFormat := some v } }
  | _ => g

/-- An option that takes no text. -/
def raise (g : Gathered) (flag : Flag) : Gathered :=
  let a := g.arguments
  match flag with
  | .ignoreCase => { g with arguments := { a with ignoreCase := some (.bool true) } }
  | .literal => { g with arguments := { a with literal := some (.bool true) } }
  | .availableOnly => { g with arguments := { a with availableOnly := some (.bool true) } }
  | _ => g

end Gathered

/-- The value of a text given to an option. -/
def valueOf (flag : Flag) (text : String) : Except UsageFault Value :=
  if flag = .logFormat ∧ !formatWords.contains text then .error (.noFormat text)
  else .ok (.str text)

/-- The fault of characters that directly follow a short option. Each of them is a short option of
its own, and there is no other than the one for help. The first one that is none ends the reading,
which is a fault if it is a hyphen or attaches a text. -/
def attachedFault (flag : Flag) : List Char → Option UsageFault
  | '-' :: rest => some (.strayText flag (String.ofList ('-' :: rest)))
  | 'h' :: '=' :: rest => some (.strayText flag (String.ofList rest))
  | 'h' :: rest => attachedFault flag rest
  | _ => none

/-- What an option that takes no text comes to, with what is attached to it. -/
def raiseFlag (scope : Option Command) (g : Gathered) (flag : Flag) (isDirect : Bool)
    (attached : Option String) : Except Halt Gathered :=
  let fault := match attached with
    | none => none
    | some text =>
      if isDirect then attachedFault flag text.toList else some (.strayText flag text)
  match fault with
  | some fault => .error (.refused scope fault)
  | none => if flag = .help then .error (.help scope) else .ok (g.raise flag)

/-- What an option that takes a text comes to. -/
def assignFlag (scope : Option Command) (g : Gathered) (flag : Flag) (text : String) :
    Except Halt Gathered :=
  match valueOf flag text with
  | .ok v => .ok (g.assign flag v)
  | .error fault => .error (.refused scope fault)

/-- The words of a command, gathered. The first text is the platform, if the command takes one, and
a mark on either side of it is dropped. -/
def gather (command : Command) : List Word → Gathered → Except Halt Gathered
  | [], g => .ok g
  | .text text :: .mark :: rest, g =>
    if command.takesPlatform && g.arguments.platform.isNone then
      gather command rest (g.platform text)
    else gather command rest ((g.skip text).skip Word.markText)
  | .text text :: rest, g =>
    if command.takesPlatform && g.arguments.platform.isNone then
      gather command rest (g.platform text)
    else gather command rest (g.skip text)
  | .mark :: .text text :: rest, g =>
    if command.takesPlatform && g.arguments.platform.isNone then
      gather command rest (g.platform text)
    else gather command rest ((g.skip Word.markText).skip text)
  | .mark :: rest, g => gather command rest (g.skip Word.markText)
  | .unknown text :: rest, g => gather command rest (g.skip text)
  | .option flag isDirect attached :: rest, g =>
    if flag.takesText then
      match attached, rest with
      | some text, rest => do gather command rest (← assignFlag (some command) g flag text)
      | none, .text text :: rest => do
        gather command rest (← assignFlag (some command) g flag text)
      | none, _ => .error (.refused (some command) (.noText flag))
    else do gather command rest (← raiseFlag (some command) g flag isDirect attached)

/-- The names of the arguments that a command cannot do without, with whether they are there. -/
def needed (command : Command) (a : Arguments) : List (String × Bool) :=
  match command with
  | .resolve => [(Flag.project.name, a.project.isSome), (Flag.devices.name, a.devices.isSome)]
  | .list => [("platform", a.platform.isSome), (Flag.devices.name, a.devices.isSome)]

/-- The words of a command read as its arguments, with the words that mean nothing. -/
def readCommand (command : Command) (words : List String) : Except Halt Gathered :=
  match Word.readAll command.flags words with
  | .error fault => .error (.refused (some command) fault)
  | .ok words => do
    let g ← gather command words ⟨{ command := some (.str command.word) }, []⟩
    match (needed command g.arguments).filter fun need => !need.2 with
    | [] =>
      let availableOnly := g.arguments.availableOnly.getD (.bool false)
      pure { g with arguments := { g.arguments with availableOnly := some availableOnly } }
    | missing => throw (.refused (some command) (.missing (missing.map Prod.fst)))

/-- What a command line comes to, if no word in it means nothing. -/
def settle (found : Option (Command × Arguments)) (unknown : List String) :
    Except Halt (Option (Command × Arguments)) :=
  if unknown.isEmpty then .ok found else .error (.refused none (.unknown unknown))

/-- The words of a command line, each with its reading among the options of the program, after
words that mean nothing. -/
def parseFrom : List (String × Word) → List String → Except Halt (Option (Command × Arguments))
  | [], unknown => settle none unknown
  | (word, .text _) :: rest, unknown =>
    match Command.ofWord? word with
    | none => .error (.refused none (.noCommand word))
    | some command => do
      let g ← readCommand command (rest.map Prod.fst)
      settle (some (command, g.arguments)) (unknown ++ g.unknown)
  | (word, .mark) :: rest, unknown =>
    if rest.isEmpty then settle none (unknown ++ [word])
    else .error (.refused none (.noCommand word))
  | (word, .unknown _) :: rest, unknown => parseFrom rest (unknown ++ [word])
  | (_, .option flag isDirect attached) :: rest, unknown =>
    match raiseFlag none ⟨{}, []⟩ flag isDirect attached with
    | .error halt => .error halt
    | .ok _ => parseFrom rest unknown

/-- The command of a command line with its arguments, if the line names one. -/
def parse (words : List String) : Except Halt (Option (Command × Arguments)) :=
  match Word.readAll [.help] words with
  | .error fault => .error (.refused none fault)
  | .ok readings => parseFrom (words.zip readings) []

end RunnerAtlas.CommandLine
