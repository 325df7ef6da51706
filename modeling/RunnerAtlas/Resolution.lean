import RunnerAtlas.Device.Supply
import RunnerAtlas.Matching
import RunnerAtlas.Project.Basic

/-!
# Resolution of targets

Each target of a project has one entry for each of its platforms. A target that declares no
platform, or one twice, cannot be resolved, and the first target that cannot ends the resolution.

## Main definitions

* `RunnerAtlas.ResolutionError` — why a project cannot be resolved.
* `RunnerAtlas.Resolution.entryName` — the display name of an entry.
* `RunnerAtlas.Resolution.entries` — the entries of targets.
* `RunnerAtlas.Resolution.resolve` — the entries of a project, from a supply of devices.
* `RunnerAtlas.Resolution.byTarget` — entries in groups, one for each target.
-/

set_option autoImplicit false

namespace RunnerAtlas

open Journal RunnerAtlas.Text

/-- Why a target is invalid. -/
inductive TargetFault where
  /-- It declares no platform. -/
  | noPlatform
  /-- It declares a platform more than once. -/
  | repeatedPlatform (platform : String)
  /-- One of its platforms is no pattern. -/
  | invalidPlatform (error : PlatformError)
  deriving DecidableEq

/-- The platform at fault, if there is one. -/
def TargetFault.platform? : TargetFault → Option String
  | noPlatform => none
  | repeatedPlatform platform => some platform
  | invalidPlatform error => some error.platform

/-- The text of a fault. -/
def TargetFault.text : TargetFault → String
  | noPlatform => "no platform declared"
  | repeatedPlatform _ => "platform declared more than once"
  | invalidPlatform error => error.message

/-- Why a project cannot be resolved. -/
inductive ResolutionError where
  /-- A target is invalid. -/
  | target (key : String) (fault : TargetFault)
  /-- Matching fails for a reason that is not the target's. -/
  | matching (error : MatchError)

/-- The message of an error. -/
def ResolutionError.message : ResolutionError → String
  | target key fault =>
    let place := match fault.platform? with
      | some platform => s!" platform {Quoted.ofText platform}"
      | none => ""
    s!"Invalid target {Quoted.ofText key}{place}: {fault.text}"
  | matching error => error.message

namespace Resolution

/-- The display name of an entry: the name of the target, with the platform if it has several. -/
def entryName (target platform : String) (multiPlatform : Bool) : String :=
  if multiPlatform then target ++ "_" ++ platform else target

/-- The first member of a list that occurs before. -/
def firstRepeated : List String → List String → Option String
  | _, [] => none
  | seen, s :: rest => if seen.contains s then some s else firstRepeated (s :: seen) rest

/-- A malformed platform is the fault of its target. -/
def blame (key : String) : MatchError → ResolutionError
  | .platform error =>
    if error.isMalformed then .target key (.invalidPlatform error) else .matching (.platform error)
  | error => .matching error

/-- The entry of a target on one of its platforms. -/
def entry (key : String) (multiPlatform : Bool) (devices : List Candidate)
    (options : MatchOptions) (platform : String) : Logged ResolutionError Entry := do
  let runners ← (Matching.runners platform devices options).mapError (blame key)
  let name := entryName key platform multiPlatform
  Logged.log .debug .resolution s!"[RESOLVE] {name} -> {runners.length} runner(s)"
  pure ⟨name, key, platform, runners⟩

/-- What all members of a list come to, one after the other. -/
def each {ε α β : Type} (f : α → Logged ε β) : List α → Logged ε (List β)
  | [] => pure []
  | a :: rest => do
    let b ← f a
    let others ← each f rest
    pure (b :: others)

/-- The outcome for a list is what the outcomes for its members come to. -/
theorem outcome_each {ε α β : Type} (f : α → Logged ε β) (as : List α) :
    (each f as).outcome = as.mapM fun a => (f a).outcome := by
  induction as with
  | nil => rfl
  | cons a rest ih => simp only [each, Logged.outcome_bind, ih, List.mapM_cons]; rfl

/-- The entries of a target. -/
def targetEntries (devices : List Candidate) (options : MatchOptions) (target : String × Target) :
    Logged ResolutionError (List Entry) :=
  if target.2.platforms.isEmpty then .fail (.target target.1 .noPlatform)
  else match firstRepeated [] target.2.platforms with
    | some platform => .fail (.target target.1 (.repeatedPlatform platform))
    | none =>
      each (entry target.1 target.2.isMultiPlatform devices options) target.2.platforms

/-- The names of entries in the order in which they first come. -/
def distinctNames (names : List String) : List String :=
  (names.foldl (fun found name => if found.contains name then found else name :: found) []).reverse

/-- The record for a name that several entries share. -/
def collisionMessage (name : String) (count : Nat) : String :=
  s!"[RESOLVE] {count} entries share the label {Quoted.ofText name}; " ++
    "use entry keys to tell them apart"

/-- One record for each name that several entries share. -/
def collisions (entries : List Entry) : List Record :=
  let names := entries.map Entry.name
  (distinctNames names).filterMap fun name =>
    let count := names.count name
    if 1 < count then some (.of .warning .resolution (collisionMessage name count)) else none

/-- The record that sums a resolution up. -/
def summaryMessage (targets entries devices : Nat) : String :=
  let ending := if entries = 1 then "y" else "ies"
  s!"[RESOLVE] {targets} target(s) resolved into {entries} entr{ending} against " ++
    s!"{devices} device(s)"

/-- The entries of a project's targets, in the order of the project and of their platforms. -/
def entries (targets : NamedTargets) (devices : List Candidate) (options : MatchOptions) :
    Logged ResolutionError (List Entry) := do
  let groups ← each (targetEntries devices options) targets.toList
  let entries := groups.flatten
  Logged.report (collisions entries)
  Logged.log .info .resolution (summaryMessage targets.toList.length entries.length devices.length)
  pure entries

/-- The entries of a project, and the supply that is left. One pass through the supply collects the
devices, against which all platforms are matched. -/
def resolve (project : Project) (supply : Supply) (options : MatchOptions) :
    Logged ResolutionError (List Entry) × Supply :=
  (entries project.targets supply.devices options, supply.afterPass)

/-- An entry put into the group of its target, which keeps its place. -/
def putEntry : List (String × List Entry) → Entry → List (String × List Entry)
  | [], e => [(e.target, [e])]
  | group :: rest, e =>
    if group.1 = e.target then (group.1, group.2 ++ [e]) :: rest else group :: putEntry rest e

/-- Entries in groups, one for each target, in the order in which the targets first come. -/
def byTarget (entries : List Entry) : List (String × List Entry) := entries.foldl putEntry []

end Resolution

end RunnerAtlas
