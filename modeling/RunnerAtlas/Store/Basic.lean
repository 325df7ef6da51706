import RunnerAtlas.Value.Mapping

/-!
# Mappings in a store

A mapping that several others share is stored in a place. What stands under its keys are values, or
the places of further mappings. Writing into a stored mapping changes it for all that know its
place, so whoever wants to leave it as it is writes into a copy. A copy of a mapping shares with it
the mappings that stand under its keys.

## Main definitions

* `RunnerAtlas.Slot` — what stands under a key of a stored mapping.
* `RunnerAtlas.Store` — the stored mappings.
* `RunnerAtlas.Store.Run` — the runs that read and write stored mappings.
* `RunnerAtlas.Store.copy`, `RunnerAtlas.Store.write` — their steps.
* `RunnerAtlas.Store.exhausted` — the run that takes too many steps.
-/

set_option autoImplicit false

namespace RunnerAtlas

/-- What stands under a key of a stored mapping. -/
inductive Slot where
  /-- A value that is no mapping. -/
  | value (v : Value)
  /-- The place of a mapping. -/
  | place (p : Nat)

/-- The entries of a stored mapping in order of insertion. -/
abbrev Fields := List (Value × Slot)

/-- What stands under a key. -/
def Fields.get? (fields : Fields) (key : Value) : Option Slot :=
  (fields.find? fun field => field.1.sameKey key).map (·.2)

/-- A slot written under a key. A key that is there keeps its place and its first spelling. -/
def Fields.put : Fields → Value → Slot → Fields
  | [], key, slot => [(key, slot)]
  | field :: rest, key, slot =>
    if field.1.sameKey key then (field.1, slot) :: rest else field :: put rest key slot

/-- The stored mappings by their places, which are counted from zero. -/
abbrev Store := List Fields

namespace Store

/-- A run that reads and writes stored mappings. It ends with a value or a failure, and leaves a
store either way; or it takes too many steps. -/
abbrev Run (ε α : Type) := ExceptT ε (StateT Store Option) α

variable {ε α : Type}

/-- A run that would take more steps than it may. -/
def exhausted : Run ε α := fun _ => none

/-- The entries of the mapping in a place. -/
def entries (p : Nat) : Run ε Fields := do return (← get).getD p []

/-- Stores a copy of the mapping in a place, and answers with its place. -/
def copy (p : Nat) : Run ε Nat := do
  let fields ← entries p
  let store ← get
  set (store ++ [fields])
  return store.length

/-- Writes a slot under a key of the mapping in a place. -/
def write (p : Nat) (key : Value) (slot : Slot) : Run ε Unit :=
  modify fun store => store.modify p fun fields => fields.put key slot

end Store

end RunnerAtlas
