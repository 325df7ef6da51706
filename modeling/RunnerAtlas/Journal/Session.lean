import RunnerAtlas.Journal.Console
import RunnerAtlas.Journal.Template

/-!
# Sessions at the console

In a session the console is configured and records are logged, in any order and any number of
times.

## Main definitions

* `RunnerAtlas.Journal.LogCall` — a call that logs, with its record `LogCall.record?`.
* `RunnerAtlas.Journal.SessionStep` — the steps of a session.
* `RunnerAtlas.Journal.StepError` — why a step does not return.
* `RunnerAtlas.Journal.Console.step` — what a step comes to, and the console that it leaves.
-/

set_option autoImplicit false

namespace RunnerAtlas.Journal

/-- A call that logs. -/
structure LogCall where
  /-- The number of the level. -/
  level : Int
  /-- The name of the source. -/
  source : String
  /-- The text of the template. -/
  text : String
  /-- The values for the template. -/
  values : List Value
  /-- The seconds after the start of 1970 at which it happens. -/
  seconds : Int

/-- Whether the number of the level has a text. A record holds it. -/
def LogCall.isNamed (call : LogCall) : Bool := (Value.int call.level).isShowable

/-- The record of a call, if there can be one and the values fit its template. -/
def LogCall.record? (call : LogCall) : Option Record :=
  if call.isNamed then Record.ofTemplate? call.level call.source call.text call.values else none

/-- A step of a session. -/
inductive SessionStep where
  /-- Configures the console by the names of a level and of a format. -/
  | configure (level format : String)
  /-- Logs. -/
  | log (call : LogCall)

/-- The names by which a step configures the console. -/
def SessionStep.names? : SessionStep → Option (String × String)
  | configure level format => some (level, format)
  | log _ => none

/-- Why a step does not return. -/
inductive StepError where
  /-- A name stands for no level. -/
  | level (cause : LevelError)
  /-- The number of a level has no text. -/
  | unnamed
  deriving DecidableEq

/-- The message of an error. -/
def StepError.message : StepError → String
  | level cause => cause.message
  | unnamed => Value.unshowableMessage

/-- What a step comes to. -/
structure StepReport where
  /-- Whether it returns. -/
  outcome : Except StepError Unit
  /-- What it makes the console write. -/
  written : String

/-- Whether a step does not configure the console because of the name of a level. -/
def StepReport.isRefused (report : StepReport) : Bool :=
  match report.outcome with
  | .error (.level _) => true
  | _ => false

/-- What a step comes to, and the console that it leaves. A record is only made if it would be
passed on. -/
def Console.step (c : Console) : SessionStep → StepReport × Console
  | .configure level format =>
    (⟨((levelNamed level).map fun _ => ()).mapError .level, ""⟩, c.configure level format)
  | .log call =>
    let outcome := if c.isEnabled call.level && !call.isNamed then .error .unnamed else .ok ()
    (⟨outcome, (call.record?.map (c.written call.seconds)).getD ""⟩, c)

end RunnerAtlas.Journal
