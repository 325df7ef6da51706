import RunnerAtlas.Device.Basic
import RunnerAtlas.Value.Literal

/-!
# Projects, targets and entries

A project holds targets by name, each with the platforms that it supports. An entry lists the
runners of one target on one platform.

## Main definitions

* `RunnerAtlas.Target`, `RunnerAtlas.Project`, `RunnerAtlas.Entry` — the records, read by
  `Target.check`, `Project.check` and `Entry.check`.
* `RunnerAtlas.NamedTargets` — targets in order, under the keys of their project.
* `RunnerAtlas.Project.target?` — the target under a key.
* `RunnerAtlas.Entry.key` — the pair that tells entries apart.
-/

set_option autoImplicit false

namespace RunnerAtlas

open Validation

/-- A unit that can be built, with the platforms it supports in the order of their declaration. -/
structure Target where
  /-- The name of the target. -/
  name : String
  /-- The platforms. -/
  platforms : List String
  deriving DecidableEq

/-- Targets under their keys, in the order of the project. No key is taken twice. -/
structure NamedTargets where
  /-- The keys with their targets. -/
  toList : List (String × Target)
  /-- The keys are distinct. -/
  nodup_keys : (toList.map Prod.fst).Nodup := by decide
  deriving DecidableEq

namespace NamedTargets

/-- A target put under a key of a list, where it keeps the place of the key. -/
def putInto (key : String) (target : Target) : List (String × Target) → List (String × Target)
  | [] => [(key, target)]
  | entry :: rest =>
    if entry.1 = key then (key, target) :: rest else entry :: putInto key target rest

/-- A target that is put under a key adds no other key. -/
theorem mem_keys_putInto {key k : String} {target : Target} {ts : List (String × Target)}
    (h : k ∈ (putInto key target ts).map Prod.fst) : k ∈ ts.map Prod.fst ∨ k = key := by
  induction ts with
  | nil => exact Or.inr (by simpa [putInto] using h)
  | cons entry rest ih =>
    simp only [putInto] at h
    split at h
    · rw [List.map_cons, List.mem_cons] at h ⊢
      rcases h with h | h
      · exact Or.inr h
      · exact Or.inl (Or.inr h)
    · rw [List.map_cons, List.mem_cons] at h ⊢
      rcases h with h | h
      · exact Or.inl (Or.inl h)
      · exact (ih h).imp_left Or.inr

/-- A target that is put under a key leaves the keys distinct. -/
theorem nodup_keys_putInto (key : String) (target : Target) {ts : List (String × Target)}
    (h : (ts.map Prod.fst).Nodup) : ((putInto key target ts).map Prod.fst).Nodup := by
  induction ts with
  | nil => simp [putInto]
  | cons entry rest ih =>
    obtain ⟨hnew, hrest⟩ := List.nodup_cons.mp h
    simp only [putInto]
    split
    · rename_i heq
      subst heq
      exact List.nodup_cons.mpr ⟨hnew, hrest⟩
    · rename_i hne
      refine List.nodup_cons.mpr ⟨fun hmem => ?_, ih hrest⟩
      rcases mem_keys_putInto hmem with hmem | heq
      · exact hnew hmem
      · exact hne heq

/-- No targets. -/
def empty : NamedTargets := ⟨[], .nil⟩

/-- A target put under a key, which keeps its place if it is taken. -/
def put (targets : NamedTargets) (key : String) (target : Target) : NamedTargets :=
  ⟨putInto key target targets.toList, nodup_keys_putInto key target targets.nodup_keys⟩

/-- The target under a key. -/
def find? (targets : NamedTargets) (key : String) : Option Target :=
  (targets.toList.find? fun entry : String × Target => entry.1 == key).map (·.2)

end NamedTargets

/-- A named collection of targets. -/
structure Project where
  /-- The display name. -/
  name : Option String
  /-- The targets. -/
  targets : NamedTargets
  deriving DecidableEq

/-- The runners of one target on one platform. The name is for display only: two entries may
share it. -/
structure Entry where
  /-- The display name. -/
  name : String
  /-- The key of the target. -/
  target : String
  /-- The platform. -/
  platform : String
  /-- The runners, in the order of the inventory. -/
  runners : List Runner
  deriving DecidableEq

namespace Target

/-- Whether a target has more than one platform. -/
def isMultiPlatform (t : Target) : Bool := decide (1 < t.platforms.length)

/-- The platforms of a target: a sequence of texts, or one text for one platform. -/
def platformsOf (v : Value) : Checked (List String) :=
  match v with
  | .str s => .ok [s]
  | v => sequence Validation.text v

/-- The entries of a record read as a target. -/
def check (entries : Mapping) : Checked Target :=
  (Checked.ap (.ok Target.mk) (required entries "name" nonemptyText)).ap
    (optional entries "platform" platformsOf [])

/-- The target of a record, or the report on it. -/
def ofRecord (entries : Mapping) : Except Invalid Target := (check entries).report "Target"

end Target

namespace Project

/-- The target under a key. -/
def target? (p : Project) (key : String) : Option Target := p.targets.find? key

/-- The step that a key of a mapping contributes to a place. -/
def keyStep : Value → Step
  | .str s => .field s
  | key => .field key.literal

/-- One entry of a mapping of targets: its key must be a text and its value a target. -/
def checkTarget (entry : Value × Value) : Checked (String × Target) :=
  let key := ((Validation.text entry.1).under .key).under (keyStep entry.1)
  let target := (record "Target" entry.2 >>= Target.check).under (keyStep entry.1)
  Checked.ap (key.map Prod.mk) target

/-- All entries of a mapping of targets. -/
def checkTargets : Mapping → Checked (List (String × Target))
  | [] => .ok []
  | entry :: rest => Checked.ap ((checkTarget entry).map List.cons) (checkTargets rest)

/-- A mapping of targets. -/
def targetsOf : Value → Checked NamedTargets
  | .map entries =>
    (checkTargets entries).map fun targets =>
      targets.foldl (fun all t => all.put t.1 t.2) NamedTargets.empty
  | _ => .fail .noMapping

/-- The entries of a record read as a project. -/
def check (entries : Mapping) : Checked Project :=
  (Checked.ap (.ok Project.mk) (optional entries "name" Validation.text? none)).ap
    (optional entries "targets" targetsOf .empty)

/-- The project of a record, or the report on it. -/
def ofRecord (entries : Mapping) : Except Invalid Project := (check entries).report "Project"

end Project

namespace Entry

/-- The pair of target and platform, which tells entries apart where names do not. -/
def key (e : Entry) : String × String := (e.target, e.platform)

/-- Whether an entry has a runner. -/
def hasRunners (e : Entry) : Bool := !e.runners.isEmpty

/-- The entries of a record read as an entry of a resolution. -/
def check (entries : Mapping) : Checked Entry :=
  (((Checked.ap (.ok Entry.mk) (required entries "name" Validation.text)).ap
    (required entries "target" Validation.text)).ap
    (required entries "platform" Validation.text)).ap
    (optional entries "runners"
      (sequence fun v => record "Runner" v >>= Runner.check) [])

/-- The entry of a record, or the report on it. -/
def ofRecord (entries : Mapping) : Except Invalid Entry :=
  (check entries).report "TargetRunnerEntry"

end Entry

end RunnerAtlas
