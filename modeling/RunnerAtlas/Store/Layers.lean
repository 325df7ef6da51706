import RunnerAtlas.Settings.Override
import RunnerAtlas.Store.Basic

/-!
# Layers of stored mappings

One stored mapping is laid over another one, or its values are overridden by the environment. Both
write into a copy, and into copies of the mappings below it that they change. The entries of a
mapping are gone through by number, each as it is when its turn comes. A mapping that stood below
itself would keep them going for ever, so they are told how many steps they may take.

## Main definitions

* `RunnerAtlas.Store.merge` — a stored mapping laid over another one.
* `RunnerAtlas.Store.override` — a stored mapping with its values overridden.
-/

set_option autoImplicit false

namespace RunnerAtlas.Store

mutual

/-- A slot laid over another one, if there is one. -/
def mergeSlot {ε : Type} (steps : Nat) (upper : Slot) (lower : Option Slot) : Run ε Slot :=
  match steps, upper, lower with
  | 0, _, _ => exhausted
  | steps + 1, .place u, some (.place b) => Slot.place <$> merge steps u b
  | _ + 1, upper, _ => pure upper

/-- The entries of the mapping in a place, from a number on, laid over those of the mapping in
another place. -/
def mergeFrom {ε : Type} (steps updates result i : Nat) : Run ε Unit :=
  match steps with
  | 0 => exhausted
  | steps + 1 => do
    match (← entries updates)[i]? with
    | none => pure ()
    | some (key, upper) =>
      let lower := (← entries result).get? key
      write result key (← mergeSlot steps upper lower)
      mergeFrom steps updates result (i + 1)

/-- The mapping in a place laid over the one in another place. -/
def merge {ε : Type} (steps updates base : Nat) : Run ε Nat :=
  match steps with
  | 0 => exhausted
  | steps + 1 => do
    let result ← copy base
    mergeFrom steps updates result 0
    return result

end

mutual

/-- A slot under a path, overridden. -/
def overrideSlot (env : Environment) (steps : Nat) (slot : Slot) (path : Value) :
    Run OverrideError Slot :=
  match steps, slot with
  | 0, _ => exhausted
  | steps + 1, .place p => Slot.place <$> override env steps p path
  | _ + 1, .value v => Slot.value <$> liftExcept (Override.leaf env path v)

/-- The entries of the mapping in a place under a path, from a number on, overridden where they
stand. -/
def overrideFrom (env : Environment) (steps result : Nat) (path : Value) (i : Nat) :
    Run OverrideError Unit :=
  match steps with
  | 0 => exhausted
  | steps + 1 => do
    match (← entries result)[i]? with
    | none => pure ()
    | some (key, old) =>
      let below ← liftExcept (Override.join path key)
      write result key (← overrideSlot env steps old below)
      overrideFrom env steps result path (i + 1)

/-- The mapping in a place under a path, with its values overridden. -/
def override (env : Environment) (steps p : Nat) (path : Value) : Run OverrideError Nat :=
  match steps with
  | 0 => exhausted
  | steps + 1 => do
    let result ← copy p
    overrideFrom env steps result path 0
    return result

end

end RunnerAtlas.Store
