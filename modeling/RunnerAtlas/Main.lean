import RunnerAtlas.CommandLine.Run
import Std.Time.DateTime.Timestamp

/-!
# The program

The files and variables that a command line needs are read first, and what the run leaves behind
is written at the end. All that lies between is decided by `RunnerAtlas.CommandLine.run`.

## Main definitions

* `RunnerAtlas.Disk.files`, `RunnerAtlas.Disk.environment` — what is read.
* `RunnerAtlas.origin` — where the program says that warnings come from.
* `main` — the program.
-/

set_option autoImplicit false

namespace RunnerAtlas.Disk

/-- What stands at a path of the disk. A file that cannot be read counts as missing. -/
def found (path : Path) : IO Found := do
  try
    let place ← IO.FS.realPath path.text
    if ← place.isDir then return .directory
    let octets ← IO.FS.readBinFile place
    let folder := (place.parent.bind fun parent => parent.fileName).getD ""
    return .file octets.toList folder
  catch _ => return .missing

/-- The files at some paths of the disk. -/
def files (paths : List String) : IO Files := do
  let entries ← paths.mapM fun text => do
    let path := Path.ofText text
    return (path, ← found path)
  return fun path => (entries.lookup path).getD .missing

/-- The variables of the environment among some names. -/
def environment (names : List String) : IO Environment := do
  let entries ← names.mapM fun name => do
    return (← IO.getEnv name).map fun text => (name, text)
  return entries.filterMap id

/-- The seconds since the start of 1970. -/
def seconds : IO Int := do
  let now ← Std.Time.Timestamp.now
  return now.toSecondsSinceUnixEpoch.val

end RunnerAtlas.Disk

/-- Warnings come from the part that makes platforms ready. -/
def RunnerAtlas.origin : CommandLine.Origin := ⟨Journal.Source.matching.name, "Platform.compile"⟩

open RunnerAtlas

/-- The program. -/
def main (words : List String) : IO UInt32 := do
  let arguments := match CommandLine.parse words with
    | .ok (some (_, arguments)) => arguments
    | _ => {}
  let files ← Disk.files arguments.paths
  let names := Settings.variableNames files (arguments.config.bind Value.text?)
  let world : CommandLine.World := ⟨files, ← Disk.environment names⟩
  let outcome := CommandLine.run world (← Disk.seconds) words
  IO.print outcome.output
  IO.eprint (outcome.standardError origin)
  return UInt32.ofNat outcome.exitCode
