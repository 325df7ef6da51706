import RunnerAtlas.Validation.Check

/-!
# Devices and runners

A device is a simulator or a physical device that is known by name; a runner is what remains of it
for the one who wants to run something there.

## Main definitions

* `RunnerAtlas.Device`, `RunnerAtlas.Runner` — checked records, read by `Device.check` and
  `Runner.check`.
* `RunnerAtlas.Candidate` — a device as matching sees it, with fields that nobody checked.
* `RunnerAtlas.Candidate.runner` — the runner of a candidate.
-/

set_option autoImplicit false

namespace RunnerAtlas

open Validation

/-- A known simulator or physical device. -/
structure Device where
  /-- The display name. -/
  name : String
  /-- The unique identifier. -/
  udid : String
  /-- The identifier of the runtime, which names the operating system. -/
  runtimeIdentifier : String
  /-- The state of a simulator. -/
  state : Option String
  /-- Whether the runtime is usable. -/
  isAvailable : Bool
  deriving DecidableEq

/-- A destination on which a target can run. -/
structure Runner where
  /-- The display name of the device. -/
  name : String
  /-- The identifier of the device. -/
  udid : String
  deriving DecidableEq

namespace Device

/-- The entries of a record read as a device. -/
def check (entries : Mapping) : Checked Device :=
  ((((Checked.ap (.ok Device.mk) (required entries "name" nonemptyText)).ap
    (required entries "udid" nonemptyText)).ap
    (required entries "runtime_identifier" nonemptyText)).ap
    (optional entries "state" Validation.text? none)).ap
    (optional entries "is_available" truth true)

/-- The device of a record, or the report on it. -/
def ofRecord (entries : Mapping) : Except Invalid Device := (check entries).report "Device"

/-- The runner of a device. -/
def runner (d : Device) : Runner := ⟨d.name, d.udid⟩

end Device

namespace Runner

/-- The entries of a record read as a runner. -/
def check (entries : Mapping) : Checked Runner :=
  (Checked.ap (.ok Runner.mk) (required entries "name" Validation.text)).ap
    (required entries "udid" Validation.text)

/-- The runner of a record, or the report on it. -/
def ofRecord (entries : Mapping) : Except Invalid Runner := (check entries).report "Runner"

end Runner

/-- A device as matching sees it: each field holds whatever it was given, or is absent. -/
structure Candidate where
  /-- The display name. -/
  name : Option Value
  /-- The unique identifier. -/
  udid : Option Value
  /-- The identifier of the runtime. -/
  runtimeIdentifier : Option Value

/-- Why a candidate has no runner. -/
inductive RunnerError where
  /-- The candidate lacks a field. -/
  | absent (field : String)
  /-- The fields do not make a runner. -/
  | invalid (report : Invalid)
  deriving DecidableEq

/-- The message of an error. -/
def RunnerError.message : RunnerError → String
  | absent field => s!"'Device' object has no attribute '{field}'"
  | invalid report => report.message

namespace Candidate

/-- The fields of a record as they are. -/
def ofRecord (entries : Mapping) : Candidate :=
  ⟨entries.find? "name", entries.find? "udid", entries.find? "runtime_identifier"⟩

/-- The name that an error message gives a candidate. -/
def label (c : Candidate) : Value := c.name.getD .null

/-- The identifier of the runtime, if it is a text with at least one character. -/
def identifier? (c : Candidate) : Option String :=
  match c.runtimeIdentifier with
  | some (.str s) => if s = "" then none else some s
  | _ => none

/-- The runner of a candidate. Both fields must be there before either is checked. -/
def runner (c : Candidate) : Except RunnerError Runner :=
  match c.name, c.udid with
  | none, _ => .error (.absent "name")
  | some _, none => .error (.absent "udid")
  | some name, some udid =>
    (Runner.ofRecord [(.str "name", name), (.str "udid", udid)]).mapError .invalid

end Candidate

/-- A checked device as matching sees it. -/
def Device.candidate (d : Device) : Candidate :=
  ⟨some (.str d.name), some (.str d.udid), some (.str d.runtimeIdentifier)⟩

/-- The runner of a checked device has its name and identifier. -/
theorem Device.runner_candidate (d : Device) : d.candidate.runner = .ok d.runner := by
  simp [Device.candidate, Candidate.runner, Runner.ofRecord, Runner.check, required,
    Mapping.find?, Mapping.get?, Value.sameKey, Validation.text, Checked.ap, Checked.under_ok,
    Checked.report_ok, Device.runner]
  rfl

end RunnerAtlas
