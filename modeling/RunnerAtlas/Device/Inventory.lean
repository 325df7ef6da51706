import RunnerAtlas.Matching
import RunnerAtlas.Project.Definition
import RunnerAtlas.Resolution

/-!
# A holder of the current devices

The current devices are held in their order until they are replaced as a whole. A holder is used in
steps, and a step that fails leaves it as it was.

## Main definitions

* `RunnerAtlas.Inventory` — the holder.
* `RunnerAtlas.Inventory.replace`, `RunnerAtlas.Inventory.find?` — its operations.
* `RunnerAtlas.Inventory.matching`, `RunnerAtlas.Inventory.resolve` — questions about its devices.
* `RunnerAtlas.InventoryStep`, `RunnerAtlas.Inventory.step` — the steps, and what they come to.
-/

set_option autoImplicit false

namespace RunnerAtlas

open Journal

/-- A holder of the current devices. -/
structure Inventory where
  /-- The devices, in order. -/
  devices : List Device

namespace Inventory

/-- A holder of no devices. -/
def empty : Inventory := ⟨[]⟩

/-- The holder with other devices. -/
def replace (_ : Inventory) (devices : List Device) : Inventory := ⟨devices⟩

/-- The first device with an identifier. -/
def find? (i : Inventory) (udid : String) : Option Device :=
  i.devices.find? fun device => device.udid == udid

/-- The number of devices. -/
def size (i : Inventory) : Nat := i.devices.length

/-- The devices as matching sees them. -/
def candidates (i : Inventory) : List Candidate := i.devices.map Device.candidate

/-- The runners of a platform. -/
def matching (i : Inventory) (platform : String) (options : MatchOptions) :
    Logged MatchError (List Runner) :=
  Matching.runners platform i.candidates options

/-- The entries of a project. -/
def resolve (i : Inventory) (project : Project) (options : MatchOptions) :
    Logged ResolutionError (List Entry) :=
  (Resolution.resolve project (.list i.candidates) options).1

end Inventory

/-! ### Steps -/

/-- A step in the use of a holder. Devices and projects are given with the outcome of reading
them. -/
inductive InventoryStep where
  /-- A new holder, of some devices or of none. -/
  | construct (devices? : Option (Except InventoryError (List Device)))
  /-- Other devices. -/
  | replace (devices : Except InventoryError (List Device))
  /-- The device with an identifier. -/
  | find (udid : String)
  /-- All devices. -/
  | iterate
  /-- The runners of a platform. -/
  | matching (platform : String) (options : MatchOptions)
  /-- The entries of a project. -/
  | resolve (project : Except DefinitionError Project) (options : MatchOptions)

/-- Why a step fails. -/
inductive InventoryStepError where
  /-- There are no devices to hold. -/
  | listing (error : InventoryError)
  /-- There is no project to resolve. -/
  | definition (error : DefinitionError)
  /-- Matching fails. -/
  | matching (error : MatchError)
  /-- The project cannot be resolved. -/
  | resolution (error : ResolutionError)

/-- What a step answers. -/
inductive InventoryReply where
  /-- The devices are held. -/
  | held
  /-- The device that was found. -/
  | found (device? : Option Device)
  /-- All devices. -/
  | devices (devices : List Device)
  /-- The runners of a platform. -/
  | runners (runners : List Runner)
  /-- The entries of a project. -/
  | entries (entries : List Entry)

namespace Inventory

/-- Devices are held in place of those before, if there are any to hold. -/
def hold (i : Inventory) (devices : Except InventoryError (List Device)) :
    Logged InventoryStepError InventoryReply × Inventory :=
  match devices with
  | .ok devices => (pure .held, i.replace devices)
  | .error e => (.fail (.listing e), i)

/-- What a step comes to, and the holder that it leaves. -/
def step (i : Inventory) : InventoryStep → Logged InventoryStepError InventoryReply × Inventory
  | .construct none => (pure .held, empty)
  | .construct (some devices) => i.hold devices
  | .replace devices => i.hold devices
  | .find udid => (pure (.found (i.find? udid)), i)
  | .iterate => (pure (.devices i.devices), i)
  | .matching platform options =>
    (do return .runners (← (i.matching platform options).mapError .matching), i)
  | .resolve project options =>
    (do
      let project ← .ofExcept (project.mapError .definition)
      return .entries (← (i.resolve project options).mapError .resolution), i)

end Inventory

end RunnerAtlas
