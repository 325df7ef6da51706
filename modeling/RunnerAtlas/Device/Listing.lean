import RunnerAtlas.Device.Basic
import RunnerAtlas.Value.Literal

/-!
# Listings of devices

An inventory is written down as a flat list of device records or as a mapping whose `devices`
entry holds one list of records for each runtime. Records are numbered through, and the first
malformed one decides. What is malformed is reported with a position and a name, and a name or key
that has no text ends the reading of a listing without such a report.

## Main definitions

* `RunnerAtlas.InventoryError` — what is malformed, and where; `InventoryError.of` makes one.
* `RunnerAtlas.Listing.device` — the device of one record.
* `RunnerAtlas.Listing.devices` — the devices of a listing.
-/

set_option autoImplicit false

namespace RunnerAtlas

open Validation

/-- What is malformed about an inventory. -/
inductive InventoryFault where
  /-- A device has no usable identifier of its runtime. -/
  | noIdentifier
  /-- A record is no mapping. -/
  | recordNoMapping
  /-- A record does not fit the model of a device. -/
  | invalid (report : Invalid)
  /-- The `devices` entry is no mapping. -/
  | runtimesNoMapping
  /-- The entry of a runtime is no list. -/
  | runtimeNoList (runtime : Value)
  /-- The listing has neither form. -/
  | noListing

/-- The text of a fault. -/
def InventoryFault.text : InventoryFault → String
  | noIdentifier => "missing runtime identifier"
  | recordNoMapping => "device record must be a mapping"
  | invalid report => report.message
  | runtimesNoMapping => "'devices' must map runtime identifiers to lists"
  | runtimeNoList runtime => s!"runtime {runtime.literal} must list devices"
  | noListing => "expected a device list or a simctl listing"

/-- Whether a fault has a text. -/
def InventoryFault.isShowable : InventoryFault → Bool
  | runtimeNoList runtime => runtime.isShowable
  | _ => true

/-- Why an inventory cannot be used. -/
inductive InventoryError where
  /-- It is malformed at a position, where the record gives the device a name or none. -/
  | malformed (index : Int) (deviceName : Value) (fault : InventoryFault)
  /-- A number that has no text was to be written. -/
  | unshowable

namespace InventoryError

/-- The message of an error. -/
def message : InventoryError → String
  | malformed index deviceName fault =>
    s!"Malformed device at position {index} ({deviceName.literal}): {fault.text}"
  | unshowable => Value.unshowableMessage

/-- The error for a fault. Its message shows the position, the name and the fault, and it is made
only if each of them has a text. -/
def of (index : Int) (deviceName : Value) (fault : InventoryFault) : InventoryError :=
  if (Value.int index).isShowable && deviceName.isShowable && fault.isShowable then
    malformed index deviceName fault
  else unshowable

/-- Where the position, the name and the fault have texts, they are reported. -/
theorem of_eq_malformed {index : Int} {deviceName : Value} {fault : InventoryFault}
    (hindex : (Value.int index).isShowable = true) (hname : deviceName.isShowable = true)
    (hfault : fault.isShowable = true) :
    of index deviceName fault = malformed index deviceName fault := by
  simp [of, hindex, hname, hfault]

end InventoryError

namespace Listing

/-- The fields of a device as its record gives them. The runtime under which a record is listed
goes before the one that it names itself, and two fields have a second spelling. -/
def fieldsOf (entries : Mapping) (runtime : Option String) : Mapping :=
  let identifier := match runtime with
    | some s => .str s
    | none =>
      (Mapping.find? entries "runtime_identifier").getD
        (Mapping.findD entries "runtimeIdentifier")
  let available := (Mapping.find? entries "is_available").getD
    ((Mapping.find? entries "isAvailable").getD (.bool true))
  [(.str "name", Mapping.findD entries "name"), (.str "udid", Mapping.findD entries "udid"),
    (.str "runtime_identifier", identifier), (.str "state", Mapping.findD entries "state"),
    (.str "is_available", available)]

/-- The device of one record at a position, listed under a runtime or not. -/
def device (record : Value) (index : Nat) (runtime : Option String) :
    Except InventoryError Device :=
  match record with
  | .map entries =>
    (Device.ofRecord (fieldsOf entries runtime)).mapError fun report =>
      .of index (Mapping.findD entries "name") (.invalid report)
  | _ => .error (.of index .null .recordNoMapping)

/-- The devices of records that are numbered from a position on. -/
def devicesFrom (runtime : Option String) : Nat → List Value → Except InventoryError (List Device)
  | _, [] => .ok []
  | index, record :: rest => do
    let first ← device record index runtime
    let others ← devicesFrom runtime (index + 1) rest
    pure (first :: others)

/-- The devices of the list of one runtime. Its key becomes a text for each record. -/
def runtimeDevices (runtime : Value) (index : Nat) (records : List Value) :
    Except InventoryError (List Device) :=
  if records.isEmpty || runtime.isShowable then devicesFrom (some runtime.display) index records
  else .error .unshowable

/-- The devices of the lists of runtimes, numbered from a position on. -/
def runtimesFrom : Nat → Mapping → Except InventoryError (List Device)
  | _, [] => .ok []
  | index, (runtime, .list records) :: rest => do
    let first ← runtimeDevices runtime index records
    let others ← runtimesFrom (index + first.length) rest
    pure (first ++ others)
  | index, (runtime, _) :: _ => .error (.of index .null (.runtimeNoList runtime))

/-- All devices of a listing. -/
def allDevices (data : Value) : Except InventoryError (List Device) :=
  match data with
  | .list records => devicesFrom none 0 records
  | .map entries =>
    match Mapping.find? entries "devices" with
    | some (.map runtimes) => runtimesFrom 0 runtimes
    | some _ => .error (.of 0 .null .runtimesNoMapping)
    | none => .error (.of 0 .null .noListing)
  | _ => .error (.of 0 .null .noListing)

/-- The devices of a listing, all of them or the available ones only. -/
def devices (data : Value) (availableOnly : Bool) : Except InventoryError (List Device) :=
  (allDevices data).map fun devices =>
    if availableOnly then devices.filter Device.isAvailable else devices

end Listing

end RunnerAtlas
