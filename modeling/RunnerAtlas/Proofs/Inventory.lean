import RunnerAtlas.Device.Inventory
import RunnerAtlas.Proofs.Automaton

set_option relaxedAutoImplicit false
set_option autoImplicit false

/-!
# The holder of devices over whole runs

After any steps, the devices that are held are those that were given last. A step that fails leaves
them, and each answer is that for these devices: the first one with an identifier, all of them in
order, the runners of a platform among them, or the entries of a project.

## Main definitions

* `RunnerAtlas.InventoryStep.given?` — the devices that a step gives the holder.
* `RunnerAtlas.InventoryStep.held` — the devices that were given last.
* `RunnerAtlas.InventoryStep.Answers` — the answers to steps for some devices.

## Main results

* `RunnerAtlas.Inventory.answers_step` — a step is answered for the devices that are held.
* `RunnerAtlas.Inventory.holds_run` — the devices and the answers of runs of any length.
-/

namespace RunnerAtlas

open Automaton Journal

/-! ### Steps -/

namespace InventoryStep

/-- The devices that a step gives the holder, if it does not fail. -/
def given? : InventoryStep → Option (List Device)
  | construct none => some []
  | construct (some (.ok devices)) => some devices
  | replace (.ok devices) => some devices
  | _ => none

/-- The devices that were given last, if any were given. -/
def held (past : List InventoryStep) : List Device :=
  ((past.filterMap given?).getLast?).getD []

/-- The answers to steps for some devices. -/
inductive Answers (ds : List Device) :
    InventoryStep → Logged InventoryStepError InventoryReply → Prop where
  /-- Other devices are held from now on. -/
  | held {step : InventoryStep} {devices : List Device} (h : step.given? = some devices) :
    Answers ds step (pure .held)
  /-- There are no devices for a new holder. -/
  | notConstructed (e : InventoryError) :
    Answers ds (.construct (some (.error e))) (.fail (.listing e))
  /-- There are no devices to replace those before. -/
  | notReplaced (e : InventoryError) : Answers ds (.replace (.error e)) (.fail (.listing e))
  /-- A device has the identifier, and none before it. -/
  | found {udid : String} {before after : List Device} {device : Device}
    (h : ds = before ++ device :: after) (hdevice : device.udid = udid)
    (hbefore : ∀ d ∈ before, d.udid ≠ udid) :
    Answers ds (.find udid) (pure (.found (some device)))
  /-- No device has the identifier. -/
  | notFound {udid : String} (h : ∀ d ∈ ds, d.udid ≠ udid) :
    Answers ds (.find udid) (pure (.found none))
  /-- All devices, in order. -/
  | devices : Answers ds .iterate (pure (.devices ds))
  /-- The runners of a platform among the devices. -/
  | runners (platform : String) (options : MatchOptions) :
    Answers ds (.matching platform options)
      ((Matching.runners platform (ds.map Device.candidate) options).mapError .matching >>=
        fun runners => pure (.runners runners))
  /-- The entries of a project with the devices. -/
  | entries (project : Project) (options : MatchOptions) :
    Answers ds (.resolve (.ok project) options)
      ((Resolution.resolve project (.list (ds.map Device.candidate)) options).1.mapError
        .resolution >>= fun entries => pure (.entries entries))
  /-- There is no project to resolve. -/
  | notDefined (e : DefinitionError) (options : MatchOptions) :
    Answers ds (.resolve (.error e) options) (.fail (.definition e))

end InventoryStep

namespace Inventory

open InventoryStep

variable {i : Inventory}

/-- No device is found exactly if none has the identifier. -/
lemma find?_eq_none_iff (i : Inventory) (udid : String) :
    i.find? udid = none ↔ ∀ d ∈ i.devices, d.udid ≠ udid := by
  rw [find?, List.find?_eq_none]
  simp

/-- The device that is found is the first one with the identifier. -/
lemma find?_eq_some_iff (i : Inventory) (udid : String) (d : Device) :
    i.find? udid = some d ↔ ∃ before after, i.devices = before ++ d :: after ∧ d.udid = udid ∧
      ∀ x ∈ before, x.udid ≠ udid := by
  rw [find?, List.find?_eq_some_iff_append]
  simp only [beq_iff_eq, Bool.not_eq_true', beq_eq_false_iff_ne]
  constructor
  · rintro ⟨hd, before, after, hdevices, hbefore⟩
    exact ⟨before, after, hdevices, hd, hbefore⟩
  · rintro ⟨before, after, hdevices, hd, hbefore⟩
    exact ⟨hd, before, after, hdevices, hbefore⟩

/-- A step that gives devices makes the holder hold them. -/
lemma step_of_given {step : InventoryStep} {devices : List Device}
    (h : step.given? = some devices) (i : Inventory) : i.step step = (pure .held, ⟨devices⟩) := by
  cases step with
  | construct devices? =>
    rcases devices? with _ | ⟨e | ds⟩
    · cases h; rfl
    · cases h
    · cases h; rfl
  | replace devices =>
    rcases devices with e | ds
    · cases h
    · cases h; rfl
  | _ => cases h

/-- A step that gives no devices leaves the holder as it is. -/
lemma step_of_not_given {step : InventoryStep} (h : step.given? = none) (i : Inventory) :
    (i.step step).2 = i := by
  cases step with
  | construct devices? =>
    rcases devices? with _ | ⟨e | ds⟩
    · cases h
    · rfl
    · cases h
  | replace devices =>
    rcases devices with e | ds
    · rfl
    · cases h
  | _ => rfl

/-- A step that fails leaves the holder as it is. -/
theorem step_of_error {step : InventoryStep} {e : InventoryStepError}
    (h : (i.step step).1.outcome = .error e) : (i.step step).2 = i := by
  cases hgiven : step.given? with
  | none => exact step_of_not_given hgiven i
  | some devices =>
    rw [step_of_given hgiven] at h
    cases h

/-- A step is answered for the devices that are held. -/
theorem answers_step (i : Inventory) (step : InventoryStep) :
    Answers i.devices step (i.step step).1 := by
  cases step with
  | construct devices? =>
    rcases devices? with _ | ⟨e | devices⟩
    · exact .held rfl
    · exact .notConstructed e
    · exact .held rfl
  | replace devices =>
    rcases devices with e | devices
    · exact .notReplaced e
    · exact .held rfl
  | find udid =>
    show Answers _ _ (pure (.found (i.find? udid)))
    cases hfound : i.find? udid with
    | none => exact .notFound ((i.find?_eq_none_iff udid).mp hfound)
    | some d =>
      obtain ⟨before, after, hdevices, hd, hbefore⟩ := (i.find?_eq_some_iff udid d).mp hfound
      exact .found hdevices hd hbefore
  | iterate => exact .devices
  | matching platform options => exact .runners platform options
  | resolve project options =>
    rcases project with e | project
    · exact .notDefined e options
    · exact .entries project options

/-- After any steps the devices that were given last are held. -/
lemma stateAfter_eq_held (past : List InventoryStep) :
    stateAfter step .empty past = ⟨held past⟩ := by
  refine stateAfter_of_last
    (fun (given : Option (List Device)) (i : Inventory) => i = ⟨given.getD []⟩) (fun _ => True)
    rfl ?_ ?_ past fun _ _ => trivial
  · intro _ i next devices hgiven _ _
    rw [step_of_given hgiven]
    rfl
  · intro last i next hgiven _ hi
    rw [step_of_not_given hgiven]
    exact hi

/-- **A holder over whole runs.** After any steps, the holder holds the devices that were given
last, in their order, and its size is their number. It finds no device exactly if none of them has
the identifier. Wherever the next step comes in a run, it is answered for these devices, and if it
fails, they stay.

**Proof sketch.** Induction on the run: the steps that give devices decide what is held, and all
others leave it (`stateAfter_eq_held`). One step is answered for what is held (`answers_step`), and
what comes later makes no difference. -/
theorem holds_run (past : List InventoryStep) :
    (stateAfter step .empty past).devices = held past ∧
    (stateAfter step .empty past).size = (held past).length ∧
    (∀ udid, (stateAfter step .empty past).find? udid = none ↔
      ∀ d ∈ held past, d.udid ≠ udid) ∧
    ∀ next future, ∃ answer,
      (trace step .empty (past ++ next :: future))[past.length]? =
        some (answer, ⟨held (past ++ [next])⟩) ∧
      Answers (held past) next answer ∧
      ∀ e, answer.outcome = .error e → held (past ++ [next]) = held past := by
  have hpast := stateAfter_eq_held past
  refine ⟨by rw [hpast], by rw [hpast]; rfl, fun udid => ?_, fun next future => ?_⟩
  · rw [hpast]
    exact find?_eq_none_iff _ udid
  · have hnext : (step ⟨held past⟩ next).2 = ⟨held (past ++ [next])⟩ := by
      rw [← hpast, ← stateAfter_concat, stateAfter_eq_held]
    refine ⟨(step ⟨held past⟩ next).1, ?_, answers_step ⟨held past⟩ next, fun e he => ?_⟩
    · rw [getElem?_trace, hpast, ← hnext]
    · have hsame := step_of_error he
      rw [hnext] at hsame
      exact congrArg Inventory.devices hsame

end Inventory

end RunnerAtlas
