import RunnerAtlas.CommandLine.Execution
import RunnerAtlas.CommandLine.Parsing

/-!
# Runs of the program

A run reads its command line and carries the command out. What it writes as output is the report
of a command that succeeds, and nothing if it fails. What it reports by records goes to the console,
and between these stands what is warned of. A warning does not pass through the console: it has a
form of its own, whatever the format of records, and is written only once.

## Main definitions

* `RunnerAtlas.CommandLine.Chunk`, `RunnerAtlas.CommandLine.chunksFrom` — what is written as errors,
  piece by piece.
* `RunnerAtlas.CommandLine.Outcome` — what a run leaves behind, with `Outcome.errors` and
  `Outcome.standardError`.
* `RunnerAtlas.CommandLine.Outcome.ofCommand` — the outcome of a command.
* `RunnerAtlas.CommandLine.run` — the outcome of a command line.
-/

set_option autoImplicit false

namespace RunnerAtlas.CommandLine

open Journal

/-- A piece of what a run writes as errors. -/
inductive Chunk where
  /-- A warning. -/
  | warning (text : String)
  /-- What the console has written, or the reading of the command line. -/
  | written (text : String)
  deriving DecidableEq

/-- The text of a warning. -/
def Chunk.warning? : Chunk → Option String
  | warning text => some text
  | written _ => none

/-- What is no warning. -/
def Chunk.written? : Chunk → Option String
  | warning _ => none
  | written text => some text

/-- Where a warning says that it comes from. It depends on how the program is installed. -/
structure Origin where
  /-- The place in the program. -/
  place : String
  /-- The line that stands there. -/
  line : String

/-- A piece as it is written. -/
def Chunk.text (origin : Origin) : Chunk → String
  | warning text => s!"{origin.place}: FutureWarning: {text}\n  {origin.line}\n"
  | written text => text

/-- What events leave in the console and beside it, seconds after the start of 1970. Warnings that
have been given before are not repeated. -/
def chunksFrom (console : Console) (seconds : Int) : List String → List Event → List Chunk
  | _, [] => []
  | given, .reported r :: rest =>
    let others := chunksFrom console seconds given rest
    if console.isEnabled r.level then .written (console.written seconds r) :: others else others
  | given, .warned text :: rest =>
    if given.contains text then chunksFrom console seconds given rest
    else .warning text :: chunksFrom console seconds (text :: given) rest

/-- What a run leaves behind. -/
structure Outcome where
  /-- The exit code. -/
  exitCode : Nat
  /-- What it has written as output. -/
  output : String
  /-- What it has written as errors, in order. -/
  chunks : List Chunk
  /-- Whether the command line led to no command, so that nothing was carried out. -/
  halted : Bool
  deriving DecidableEq

/-- What a run has written as errors, but for warnings, in pieces. -/
def Outcome.written (o : Outcome) : List String := o.chunks.filterMap Chunk.written?

/-- What a run has written as errors, but for warnings. -/
def Outcome.errors (o : Outcome) : String := String.join o.written

/-- What a run has warned of. -/
def Outcome.warnings (o : Outcome) : List String := o.chunks.filterMap Chunk.warning?

/-- All that a run has written as errors. -/
def Outcome.standardError (origin : Origin) (o : Outcome) : String :=
  String.join (o.chunks.map (Chunk.text origin))

/-- The record of a command that has failed. -/
def failureRecord (e : CommandError) : Record :=
  .of .error .commandLine s!"[BOOT] CLI execution failed: {e.message}"

/-- The events of a course, with the record of its failure. -/
def eventsOf (course : Logged CommandError Report) : List Event :=
  match course.outcome with
  | .ok _ => course.events
  | .error e => course.events ++ [.reported (failureRecord e)]

/-- The records of a course, with one for its failure. -/
def recordsOf (course : Logged CommandError Report) : List Record :=
  (eventsOf course).filterMap Event.record?

/-- The console before the settings have been loaded. -/
def startingConsole (a : Arguments) : Console :=
  Console.fresh.configure Level.info.name (a.formatName LoggingSettings.standard.format)

namespace Outcome

/-- The outcome of a halt. -/
def ofHalt (halt : Halt) : Outcome := ⟨halt.exitCode, halt.output, [.written halt.errors], true⟩

/-- The outcome of a course, seconds after the start of 1970. -/
def ofExecution (seconds : Int) (e : Execution) : Outcome :=
  let chunks := chunksFrom e.console seconds [] (eventsOf e.course)
  match e.course.outcome with
  | .ok report => ⟨0, report.pretty ++ "\n", chunks, false⟩
  | .error _ => ⟨1, "", chunks, false⟩

/-- The outcome of a command with arguments. -/
def ofCommand (command : Command) (world : World) (seconds : Int) (a : Arguments) : Outcome :=
  ofExecution seconds (execute command world a (startingConsole a))

end Outcome

/-- The outcome of a command line, seconds after the start of 1970. A command line that names no
command gets the help. -/
def run (world : World) (seconds : Int) (words : List String) : Outcome :=
  match parse words with
  | .error halt => .ofHalt halt
  | .ok none => ⟨1, help none, [], false⟩
  | .ok (some (command, a)) => .ofCommand command world seconds a

end RunnerAtlas.CommandLine
