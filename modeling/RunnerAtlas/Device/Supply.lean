import RunnerAtlas.Device.Basic

/-!
# Supplies of devices

Devices are given as a list, which can be gone through any number of times, or by an iterator,
which is used up by the first pass.

## Main definitions

* `RunnerAtlas.Supply` — the supplies.
* `RunnerAtlas.Supply.devices` — the devices that a pass finds.
* `RunnerAtlas.Supply.afterPass` — the supply that a pass leaves.
-/

set_option autoImplicit false

namespace RunnerAtlas

/-- Devices to go through. -/
inductive Supply where
  /-- A list, the same for every pass. -/
  | list (devices : List Candidate)
  /-- An iterator with the devices that it has not given yet. -/
  | iterator (devices : List Candidate)

namespace Supply

/-- The devices that a pass through a supply finds. -/
def devices : Supply → List Candidate
  | list devices => devices
  | iterator devices => devices

/-- The supply after a pass. -/
def afterPass : Supply → Supply
  | list devices => list devices
  | iterator _ => iterator []

/-- A later pass through a list finds the same devices. -/
@[simp] theorem devices_afterPass_list (ds : List Candidate) :
    (list ds).afterPass.devices = ds := rfl

/-- A later pass through an iterator finds no device. -/
@[simp] theorem devices_afterPass_iterator (ds : List Candidate) :
    (iterator ds).afterPass.devices = [] := rfl

end Supply

end RunnerAtlas
