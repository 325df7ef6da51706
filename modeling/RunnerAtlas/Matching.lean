import RunnerAtlas.Device.Listing
import RunnerAtlas.Journal.Record
import RunnerAtlas.Platform

/-!
# Matching devices to a platform

A platform is made ready first; then the devices are examined in the order of the inventory, and
the first malformed one ends the matching.

## Main definitions

* `RunnerAtlas.MatchError` — why matching fails.
* `RunnerAtlas.Matching.deviceMatches` — whether a device is one of a platform.
* `RunnerAtlas.Matching.runners` — the runners of a platform.
-/

set_option autoImplicit false

namespace RunnerAtlas

open Journal RunnerAtlas.Text

/-- Why matching fails. -/
inductive MatchError where
  /-- The platform cannot be searched for. -/
  | platform (error : PlatformError)
  /-- A device is malformed. -/
  | inventory (error : InventoryError)
  /-- A device that matches has no runner. -/
  | runner (error : RunnerError)

/-- The message of an error. -/
def MatchError.message : MatchError → String
  | platform error => error.message
  | inventory error => error.message
  | runner error => error.message

namespace Matching

/-- The identifier of a device's runtime at a position, which has to be a text with at least one
character. -/
def identifier (device : Candidate) (index : Int) : Except InventoryError String :=
  match device.identifier? with
  | some s => .ok s
  | none => .error (.of index device.label .noIdentifier)

/-- Whether a device at a position is one of a platform. -/
def deviceMatches (platform : Platform.Compiled) (device : Candidate) (index : Int) :
    Except InventoryError Bool :=
  (identifier device index).map platform.matchesIn

/-- The runners of the devices of a platform, numbered from a position on. -/
def runnersFrom (platform : Platform.Compiled) :
    Nat → List Candidate → Except MatchError (List Runner)
  | _, [] => .ok []
  | index, device :: rest => do
    let found ← (deviceMatches platform device index).mapError .inventory
    if found then
      let runner ← device.runner.mapError .runner
      let others ← runnersFrom platform (index + 1) rest
      pure (runner :: others)
    else runnersFrom platform (index + 1) rest

/-- The outcome of matching, without its record and the warnings of its platform. -/
def outcome (platform : String) (devices : List Candidate) (options : MatchOptions) :
    Except MatchError (List Runner) := do
  let compiled ← (Platform.compile platform options).mapError .platform
  runnersFrom compiled 0 devices

/-- The runners of the devices that a platform matches, in the order of the inventory. -/
def runners (platform : String) (devices : List Candidate) (options : MatchOptions) :
    Logged MatchError (List Runner) := do
  Logged.warn (Platform.warnings platform options)
  let found ← Logged.ofExcept (outcome platform devices options)
  Logged.log .debug .matching
    s!"[MATCH] platform={Quoted.ofText platform} matched {found.length} device(s)"
  pure found

end Matching

end RunnerAtlas
