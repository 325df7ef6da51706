/-!
# Records of a run

A run reports what it does by records, and what it reads may be warned of. Both stand beside its
outcome, in order, and are kept when it fails.

## Main definitions

* `RunnerAtlas.Journal.Level` — the named levels of importance, with their numbers.
* `RunnerAtlas.Journal.Source` — the parts of the library that report.
* `RunnerAtlas.Journal.Record` — a record.
* `RunnerAtlas.Journal.Event` — a record or a warning.
* `RunnerAtlas.Journal.Logged` — an outcome with the events that led to it, and its
  `Logged.records`.
-/

set_option autoImplicit false

namespace RunnerAtlas.Journal

/-- The named levels of importance. -/
inductive Level where
  /-- No level at all. -/
  | notset
  /-- Details of a run. -/
  | debug
  /-- The course of a run. -/
  | info
  /-- Something that may be a mistake. -/
  | warning
  /-- A failure. -/
  | error
  /-- A failure of everything. -/
  | critical
  deriving DecidableEq

/-- The number of a level. -/
def Level.number : Level → Int
  | notset => 0
  | debug => 10
  | info => 20
  | warning => 30
  | error => 40
  | critical => 50

/-- The name of a level. -/
def Level.name : Level → String
  | notset => "NOTSET"
  | debug => "DEBUG"
  | info => "INFO"
  | warning => "WARNING"
  | error => "ERROR"
  | critical => "CRITICAL"

/-- All levels. -/
def Level.all : List Level := [notset, debug, info, warning, error, critical]

/-- The name of the level with a number; a number without a level is named by itself. No record has
a number of so many digits that there is no text of it. -/
def levelName (number : Int) : String :=
  match Level.all.find? fun level => level.number == number with
  | some level => level.name
  | none => s!"Level {number}"

/-- The parts of the library that report. -/
inductive Source where
  /-- Reading of projects and inventories. -/
  | loading
  /-- Matching of devices. -/
  | matching
  /-- Resolution of targets. -/
  | resolution
  /-- The command line. -/
  | commandLine
  deriving DecidableEq

/-- The name under which a part reports. -/
def Source.name : Source → String
  | loading => "target_runners.loaders"
  | matching => "target_runners.runtime.matcher"
  | resolution => "target_runners.runtime.resolver"
  | commandLine => "target_runners.cli"

/-- A record: its level by number, the name of its source and its message. -/
structure Record where
  /-- The number of the level. -/
  level : Int
  /-- The name of the source. -/
  source : String
  /-- The message. -/
  message : String
  deriving DecidableEq

/-- The record of a part of the library. -/
def Record.of (level : Level) (source : Source) (message : String) : Record :=
  ⟨level.number, source.name, message⟩

/-- What happens in a run. -/
inductive Event where
  /-- Something is reported. -/
  | reported (r : Record)
  /-- What has been read is warned of, which is no record. -/
  | warned (text : String)
  deriving DecidableEq

/-- The record of an event, if it is one. -/
def Event.record? : Event → Option Record
  | reported r => some r
  | warned _ => none

/-- An outcome with the events that led to it, which a failure keeps. -/
structure Logged (ε α : Type) where
  /-- The events, in order. -/
  events : List Event
  /-- The outcome. -/
  outcome : Except ε α

namespace Logged

variable {ε ε' α β : Type}

/-- The records among the events. -/
def records (x : Logged ε α) : List Record := x.events.filterMap Event.record?

/-- An outcome without events. -/
def ofExcept (x : Except ε α) : Logged ε α := ⟨[], x⟩

/-- Records, one after the other. -/
def report (rs : List Record) : Logged ε Unit := ⟨rs.map .reported, .ok ()⟩

/-- One record. -/
def log (level : Level) (source : Source) (message : String) : Logged ε Unit :=
  report [.of level source message]

/-- Warnings, one after the other. -/
def warn (texts : List String) : Logged ε Unit := ⟨texts.map .warned, .ok ()⟩

/-- Failure. -/
def fail (e : ε) : Logged ε α := ⟨[], .error e⟩

/-- A run continued with its value; a failure ends it. -/
def andThen (x : Logged ε α) (f : α → Logged ε β) : Logged ε β :=
  match x.outcome with
  | .ok a => ⟨x.events ++ (f a).events, (f a).outcome⟩
  | .error e => ⟨x.events, .error e⟩

instance : Monad (Logged ε) where
  pure a := ⟨[], .ok a⟩
  bind := andThen

/-- The run with its failure seen as another one. -/
def mapError (f : ε → ε') (x : Logged ε α) : Logged ε' α := ⟨x.events, x.outcome.mapError f⟩

/-- A run that reports nothing and has a value. -/
@[simp] theorem records_pure (a : α) : (pure a : Logged ε α).records = [] := rfl

/-- The value of a run that reports nothing. -/
@[simp] theorem outcome_pure (a : α) : (pure a : Logged ε α).outcome = .ok a := rfl

/-- The outcome of a run without records. -/
@[simp] theorem outcome_ofExcept (x : Except ε α) : (ofExcept x).outcome = x := rfl

/-- Records are reported as they are. -/
@[simp] theorem records_report (rs : List Record) : (report rs : Logged ε Unit).records = rs := by
  induction rs with
  | nil => rfl
  | cons r rs ih => exact congrArg (r :: ·) ih

/-- Warnings are no records. -/
@[simp] theorem records_warn (texts : List String) : (warn texts : Logged ε Unit).records = [] := by
  induction texts with
  | nil => rfl
  | cons text texts ih => exact ih

/-- One record is reported without fail. -/
@[simp] theorem outcome_log (level : Level) (source : Source) (message : String) :
    (log level source message : Logged ε Unit).outcome = .ok () := rfl

/-- Records are reported without fail. -/
@[simp] theorem outcome_report (rs : List Record) :
    (report rs : Logged ε Unit).outcome = .ok () := rfl

/-- Warnings are given without fail. -/
@[simp] theorem outcome_warn (texts : List String) :
    (warn texts : Logged ε Unit).outcome = .ok () := rfl

/-- The outcome of a failure. -/
@[simp] theorem outcome_fail (e : ε) : (fail e : Logged ε α).outcome = .error e := rfl

/-- The outcome of a run with its failure seen as another one. -/
@[simp] theorem outcome_mapError (f : ε → ε') (x : Logged ε α) :
    (x.mapError f).outcome = x.outcome.mapError f := rfl

/-- The outcome of a continued run is that of the outcomes continued. -/
@[simp] theorem outcome_bind (x : Logged ε α) (f : α → Logged ε β) :
    (x >>= f).outcome = x.outcome >>= fun a => (f a).outcome := by
  show (andThen x f).outcome = _
  cases h : x.outcome <;> simp only [andThen, h] <;> rfl

end Logged

end RunnerAtlas.Journal
