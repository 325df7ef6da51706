import Mathlib.Data.List.Basic
import Mathlib.Tactic.Lemma
import Mathlib.Tactic.SplitIfs
import RunnerAtlas.Proofs.Mappings
import RunnerAtlas.Store.Basic

set_option relaxedAutoImplicit false
set_option autoImplicit false

/-!
# What a store holds

A place holds a mapping if the mapping can be read off the store, through as many further places as
it takes. It goes on to hold it as long as the places that take part are left alone, whatever is
stored or written elsewhere.

## Main definitions

* `RunnerAtlas.Store.Run.eval` — what a run comes to.
* `RunnerAtlas.Store.Run.Ends` — what a run comes to if it may take enough steps.
* `RunnerAtlas.Store.Holds` — a slot holds a value.
* `RunnerAtlas.Store.Keeps` — whatever is stored stays as it is.

## Main results

* `RunnerAtlas.Store.Keeps.holds` — a slot holds its value as long as its places are left alone.
* `RunnerAtlas.Store.HoldsAll.put` — writing a slot writes the value that it holds.
-/

namespace RunnerAtlas

namespace Store

variable {ε α β : Type}

/-! ### Runs -/

/-- What a run comes to from a store, with the store that it leaves, if it ends. -/
def Run.eval (x : Run ε α) (σ : Store) : Option (Except ε α × Store) := x.run.run σ

namespace Run

variable {x : Run ε α} {σ τ : Store}

@[simp] lemma eval_pure (a : α) (σ : Store) : (pure a : Run ε α).eval σ = some (.ok a, σ) := rfl

/-- A run that continues one which succeeds. -/
lemma eval_bind_of_ok {a : α} (h : x.eval σ = some (.ok a, τ)) (f : α → Run ε β) :
    (x >>= f).eval σ = (f a).eval τ := by
  show (x.run.run σ).bind _ = _
  rw [show x.run.run σ = _ from h]
  rfl

/-- A run that would continue one which fails. -/
lemma eval_bind_of_error {e : ε} (h : x.eval σ = some (.error e, τ)) (f : α → Run ε β) :
    (x >>= f).eval σ = some (.error e, τ) := by
  show (x.run.run σ).bind _ = _
  rw [show x.run.run σ = _ from h]
  rfl

/-- A run whose value is mapped. -/
lemma eval_map {y : Except ε α} (h : x.eval σ = some (y, τ)) (f : α → β) :
    (f <$> x).eval σ = some (y.map f, τ) := by
  show (x.run.run σ).bind _ = _
  rw [show x.run.run σ = _ from h]
  cases y <;> rfl

/-- An outcome that neither reads nor writes. -/
lemma eval_liftExcept (y : Except ε α) (σ : Store) :
    (liftExcept y : Run ε α).eval σ = some (y, σ) := by
  cases y <;> rfl

/-- A run ends with an outcome and a store, if only it may take enough steps. -/
def Ends (x : Nat → Run ε α) (σ : Store) (y : Except ε α) (τ : Store) : Prop :=
  ∃ n, ∀ k, n ≤ k → (x k).eval σ = some (y, τ)

namespace Ends

variable {x x' : Nat → Run ε α} {y : Except ε α} {υ : Store}

/-- A run that comes after one step to one that ends does end. -/
lemma of_step (h : Ends x τ y υ) (hstep : ∀ k, (x' (k + 1)).eval σ = (x k).eval τ) :
    Ends x' σ y υ := by
  obtain ⟨n, h⟩ := h
  refine ⟨n + 1, fun k hk => ?_⟩
  obtain ⟨k, rfl⟩ : ∃ k', k = k' + 1 := ⟨k - 1, by omega⟩
  rw [hstep, h k (by omega)]

/-- A run that takes no steps of its own ends. -/
lemma of_eval (h : ∀ k, (x k).eval σ = some (y, τ)) : Ends x σ y τ := ⟨0, fun k _ => h k⟩

/-- A run that continues one which succeeds ends as the continuation does. -/
lemma bind {a : α} (h : Ends x σ (.ok a) τ) {f : Nat → α → Run ε β} {z : Except ε β}
    (h' : Ends (fun k => f k a) τ z υ) : Ends (fun k => x k >>= f k) σ z υ := by
  obtain ⟨n, h⟩ := h
  obtain ⟨m, h'⟩ := h'
  refine ⟨max n m, fun k hk => ?_⟩
  rw [eval_bind_of_ok (h k (by omega)), h' k (by omega)]

/-- A run that would continue one which fails does fail. -/
lemma bind_of_error {e : ε} (h : Ends x σ (.error e) τ) (f : Nat → α → Run ε β) :
    Ends (fun k => x k >>= f k) σ (.error e) τ := by
  obtain ⟨n, h⟩ := h
  exact ⟨n, fun k hk => eval_bind_of_error (h k hk) (f k)⟩

/-- A run whose value is mapped ends as the run does. -/
lemma map (h : Ends x σ y τ) (f : α → β) : Ends (fun k => f <$> x k) σ (y.map f) τ := by
  obtain ⟨n, h⟩ := h
  exact ⟨n, fun k hk => eval_map (h k hk) f⟩

end Ends

end Run

variable {σ τ : Store} {p : Nat} {fields : Fields}

@[simp] lemma eval_entries (h : σ[p]? = some fields) :
    (entries p : Run ε Fields).eval σ = some (.ok fields, σ) := by
  show some (Except.ok (σ.getD p []), σ) = _
  rw [List.getD_eq_getElem?_getD, h]
  rfl

/-- A copy is stored in a new place. -/
lemma eval_copy (h : σ[p]? = some fields) :
    (copy p : Run ε Nat).eval σ = some (.ok σ.length, σ ++ [fields]) := by
  rw [copy, Run.eval_bind_of_ok (eval_entries h)]
  rfl

lemma eval_write (key : Value) (slot : Slot) :
    (write p key slot : Run ε Unit).eval σ =
      some (.ok (), σ.modify p fun fields => fields.put key slot) := rfl

/-! ### What a slot holds -/

mutual

/-- A slot holds a value, through places that all have a property. -/
def Holds (σ : Store) (P : Nat → Prop) : Slot → Value → Prop
  | .place p, .map entries => P p ∧ ∃ fields, σ[p]? = some fields ∧ HoldsAll σ P fields entries
  | .value v, w => v = w ∧ v.entries? = none
  | .place _, _ => False

/-- Fields hold entries: they have the same keys, and each slot holds the value under its key. -/
def HoldsAll (σ : Store) (P : Nat → Prop) : Fields → Mapping → Prop
  | (key, slot) :: fields, (key', v) :: entries =>
    key = key' ∧ Holds σ P slot v ∧ HoldsAll σ P fields entries
  | [], [] => True
  | _, _ => False

end

variable {P Q : Nat → Prop}

/-- A place holds a mapping exactly if what is stored there does. -/
lemma holds_place_iff {p : Nat} {m : Mapping} :
    Holds σ P (.place p) (.map m) ↔
      P p ∧ ∃ fields, σ[p]? = some fields ∧ HoldsAll σ P fields m := by
  rw [Holds]

/-- A place holds nothing but a mapping. -/
lemma exists_of_holds_place {p : Nat} {v : Value} (h : Holds σ P (.place p) v) :
    ∃ m, v = .map m := by
  cases v with
  | map m => exact ⟨m, rfl⟩
  | _ => simp [Holds] at h

/-- A mapping is held by a place. -/
lemma exists_of_holds_map {slot : Slot} {m : Mapping} (h : Holds σ P slot (.map m)) :
    ∃ p, slot = .place p := by
  cases slot with
  | place p => exact ⟨p, rfl⟩
  | value v =>
    obtain ⟨rfl, h⟩ := h
    cases h

mutual

/-- A slot goes on to hold its value as long as its places are left alone. -/
theorem holds_mono (h : ∀ p fields, P p → σ[p]? = some fields → Q p ∧ τ[p]? = some fields) :
    (slot : Slot) → (v : Value) → Holds σ P slot v → Holds τ Q slot v
  | .place p, .map entries, hslot => by
    obtain ⟨hp, fields, hfields, hall⟩ := holds_place_iff.mp hslot
    obtain ⟨hq, hfields⟩ := h p fields hp hfields
    exact holds_place_iff.mpr ⟨hq, fields, hfields, holdsAll_mono h fields entries hall⟩
  | .value _, _, hslot => by rwa [Holds] at hslot ⊢

/-- Fields go on to hold their entries as long as the places are left alone. -/
theorem holdsAll_mono (h : ∀ p fields, P p → σ[p]? = some fields → Q p ∧ τ[p]? = some fields) :
    (fields : Fields) → (m : Mapping) → HoldsAll σ P fields m → HoldsAll τ Q fields m
  | [], [], _ => trivial
  | [], _ :: _, hall => hall.elim
  | _ :: _, [], hall => hall.elim
  | (_, slot) :: fields, (_, v) :: entries, hall =>
    ⟨hall.1, holds_mono h slot v hall.2.1, holdsAll_mono h fields entries hall.2.2⟩

end

/-- A slot holds its value through all places that have another property as well. -/
lemma Holds.weaken {slot : Slot} {v : Value} (h : Holds σ P slot v) (hPQ : ∀ p, P p → Q p) :
    Holds σ Q slot v :=
  holds_mono (fun p _ hp hfields => ⟨hPQ p hp, hfields⟩) slot v h

namespace HoldsAll

variable {fields : Fields} {m : Mapping}

/-- Fields hold their entries through all places that have another property as well. -/
lemma weaken (h : HoldsAll σ P fields m) (hPQ : ∀ p, P p → Q p) : HoldsAll σ Q fields m :=
  holdsAll_mono (fun p _ hp hfields => ⟨hPQ p hp, hfields⟩) fields m h

/-- A key finds a slot that holds what the key finds in the mapping. -/
lemma get? (h : HoldsAll σ P fields m) (key : Value) :
    Option.Rel (Holds σ P) (fields.get? key) (Mapping.get? m key) := by
  induction fields generalizing m with
  | nil =>
    cases m with
    | nil => exact .none
    | cons => exact h.elim
  | cons field rest ih =>
    cases m with
    | nil => exact h.elim
    | cons entry entries =>
      obtain ⟨hkey, hslot, hrest⟩ := h
      unfold Fields.get? Mapping.get?
      rw [List.find?_cons, List.find?_cons, hkey]
      cases entry.1.sameKey key with
      | true => exact .some hslot
      | false => exact ih hrest

/-- To write a slot is to write the value that it holds. -/
lemma put (h : HoldsAll σ P fields m) {slot : Slot} {v : Value} (hslot : Holds σ P slot v)
    (key : Value) : HoldsAll σ P (fields.put key slot) (Mapping.put m key v) := by
  induction fields generalizing m with
  | nil =>
    cases m with
    | nil => exact ⟨rfl, hslot, trivial⟩
    | cons => exact h.elim
  | cons field rest ih =>
    cases m with
    | nil => exact h.elim
    | cons entry entries =>
      obtain ⟨hkey, hold, hrest⟩ := h
      rw [Fields.put, Mapping.put, hkey]
      split_ifs
      · exact ⟨rfl, hslot, hrest⟩
      · exact ⟨hkey, hold, ih hrest⟩

end HoldsAll

/-! ### What stays -/

/-- Whatever is stored in places with a property stays as it is. -/
def Keeps (P : Nat → Prop) (σ τ : Store) : Prop :=
  ∀ p fields, P p → σ[p]? = some fields → τ[p]? = some fields

namespace Keeps

variable {υ : Store}

/-- What stays twice stays. -/
lemma trans (h : Keeps P σ τ) (h' : Keeps P τ υ) : Keeps P σ υ :=
  fun p fields hp hfields => h' p fields hp (h p fields hp hfields)

/-- What stays everywhere stays in places with a property. -/
lemma of_all (h : Keeps (fun _ => True) σ τ) : Keeps P σ τ :=
  fun p fields _ hfields => h p fields trivial hfields

/-- If everything stays, there are not fewer places than before. -/
lemma length_le (h : Keeps (fun _ => True) σ τ) : σ.length ≤ τ.length := by
  refine Nat.le_of_not_lt fun hlt => ?_
  have hlast := h _ _ trivial (List.getElem?_eq_getElem hlt)
  simp at hlast

/-- A slot goes on to hold its value if what is stored in its places stays. -/
lemma holds (h : Keeps P σ τ) {slot : Slot} {v : Value} (hslot : Holds σ P slot v) :
    Holds τ P slot v :=
  holds_mono (fun p fields hp hfields => ⟨hp, h p fields hp hfields⟩) slot v hslot

/-- Fields go on to hold their entries if what is stored in their places stays. -/
lemma holdsAll (h : Keeps P σ τ) {fields : Fields} {m : Mapping} (hall : HoldsAll σ P fields m) :
    HoldsAll τ P fields m :=
  holdsAll_mono (fun p fields hp hfields => ⟨hp, h p fields hp hfields⟩) fields m hall

end Keeps

/-- A copy leaves all other mappings as they are. -/
lemma keeps_append (σ : Store) (fields : Fields) : Keeps P σ (σ ++ [fields]) := by
  intro p found _ hfound
  obtain ⟨hlt, -⟩ := List.getElem?_eq_some_iff.mp hfound
  rw [List.getElem?_append_left hlt, hfound]

/-- To write into a mapping leaves those in other places as they are. -/
lemma keeps_modify (σ : Store) (p : Nat) (f : Fields → Fields) :
    Keeps (· ≠ p) σ (σ.modify p f) := by
  intro q found hq hfound
  rw [List.getElem?_modify_ne f σ (Ne.symm (show q ≠ p from hq)), hfound]

end Store

end RunnerAtlas
