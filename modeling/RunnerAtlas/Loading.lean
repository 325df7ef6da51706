import RunnerAtlas.Device.Listing
import RunnerAtlas.Document.Reading
import RunnerAtlas.Files.Tree
import RunnerAtlas.Journal.Record
import RunnerAtlas.Project.Definition

/-!
# Loading projects and inventories

A file holds a document, which defines a project or lists devices. Every load that succeeds is
reported.

## Main definitions

* `RunnerAtlas.ReadError` — why a file holds no document.
* `RunnerAtlas.Loading.document` — the value of the document in a file.
* `RunnerAtlas.LoadError` — why a file holds no project or inventory.
* `RunnerAtlas.Loading.project`, `RunnerAtlas.Loading.devices` — what a file holds.
-/

set_option autoImplicit false

namespace RunnerAtlas

open Journal RunnerAtlas.Text

/-- The message of a fault in a document. -/
def Document.Fault.message : Document.Fault → String
  | undecodable => "the document is not written in UTF-8"
  | malformed => "the document is malformed"
  | scalar cause => cause.message

/-- Why a file holds no document. -/
inductive ReadError where
  /-- There is no such file. -/
  | missing (path : Path)
  /-- It is a directory. -/
  | directory (path : Path)
  /-- Its octets are no document. -/
  | document (fault : Document.Fault)

/-- The message of an error about a file that has a role. -/
def ReadError.message (role : String) : ReadError → String
  | missing path => s!"{role} not found: {path.text}"
  | directory path => s!"[Errno 21] Is a directory: {Quoted.ofText path.text}"
  | document fault => fault.message

/-- Why a file holds no project or inventory. -/
inductive LoadError where
  /-- It holds no document. -/
  | read (error : ReadError)
  /-- Its document defines no project. -/
  | definition (error : DefinitionError)
  /-- Its document lists no devices. -/
  | inventory (error : InventoryError)

/-- The message of an error. -/
def LoadError.message : LoadError → String
  | read error => error.message "File"
  | definition error => error.message
  | inventory error => error.message

namespace Loading

/-- The value of the document in a file, with the name of the directory that holds the file. -/
def document (files : Files) (path : Path) : Except ReadError (Value × String) :=
  match files path with
  | .missing => .error (.missing path)
  | .directory => .error (.directory path)
  | .file octets folder =>
    match Document.read octets with
    | .ok v => .ok (v, folder)
    | .error fault => .error (.document fault)

/-- The project that a file defines. One without a name is named after the directory of the
file. -/
def readProject (files : Files) (path : String) : Except LoadError Project := do
  let (data, folder) ← (document files (.ofText path)).mapError .read
  (Definition.project data (some folder)).mapError .definition

/-- The devices that a file lists, all of them or the available ones only. -/
def readDevices (files : Files) (path : String) (availableOnly : Bool) :
    Except LoadError (List Device) := do
  let (data, _) ← (document files (.ofText path)).mapError .read
  (Listing.devices data availableOnly).mapError .inventory

/-- The record of a project that has been loaded. -/
def projectMessage (p : Project) : String :=
  s!"[LOAD] project {p.name.getD (Value.display .null)}: {p.targets.toList.length} target(s)"

/-- The record of an inventory that has been loaded. -/
def devicesMessage (path : String) (devices : List Device) : String :=
  s!"[LOAD] inventory {path}: {devices.length} device(s)"

/-- The project that a file defines, with its record. -/
def project (files : Files) (path : String) : Logged LoadError Project := do
  let p ← Logged.ofExcept (readProject files path)
  Logged.log .info .loading (projectMessage p)
  pure p

/-- The devices that a file lists, with their record. -/
def devices (files : Files) (path : String) (availableOnly : Bool) :
    Logged LoadError (List Device) := do
  let found ← Logged.ofExcept (readDevices files path availableOnly)
  Logged.log .info .loading (devicesMessage path found)
  pure found

end Loading

end RunnerAtlas
