import RunnerAtlas.Proofs.Settings.Leaves
import RunnerAtlas.Proofs.Value.Merging

set_option relaxedAutoImplicit false
set_option autoImplicit false

/-!
# Overriding in a store

A stored mapping is overridden in a copy, while the loop over its entries goes on. This comes to the
mapping that is overridden entry by entry, or to its error, as no entry is written but the one whose
turn it is. For this the keys must be distinct: what is written under a key must not end up in an
entry before it. Whatever was stored before is left as it was, also if there is an error.

## Main definitions

* `RunnerAtlas.Outcome.Both` — two outcomes agree up to a relation of their values.

## Main results

* `RunnerAtlas.Store.ends_override` — what a stored mapping that is overridden comes to.
-/

namespace RunnerAtlas

/-- Two outcomes are failures for one reason, or successes whose values stand in a relation. -/
inductive Outcome.Both {ε α β : Type} (R : α → β → Prop) : Except ε α → Except ε β → Prop where
  /-- Both succeed. -/
  | ok {a : α} {b : β} (h : R a b) : Both R (.ok a) (.ok b)
  /-- Both fail. -/
  | error (e : ε) : Both R (.error e) (.error e)

open Outcome

/-! ### One entry after the other -/

namespace Mapping

variable {done rest : Mapping} {key old : Value}

/-- Distinct keys are distinct with whatever values. -/
lemma Distinct.of_keys {m m' : Mapping} (hm : Distinct m)
    (h : m'.map Prod.fst = m.map Prod.fst) : Distinct m' := by
  have hpairs := hm.pairwise
  rw [← List.pairwise_map (f := Prod.fst) (R := fun k l : Value => k.sameKey l = false), ← h,
    List.pairwise_map] at hpairs
  refine ⟨fun e he => ?_, hpairs⟩
  have hmem : e.1 ∈ m'.map Prod.fst := List.mem_map_of_mem he
  rw [h] at hmem
  obtain ⟨f, hf, hfe⟩ := List.mem_map.mp hmem
  exact hfe ▸ hm.isKey f hf

/-- Among distinct keys, writing under the key of an entry replaces its value. -/
lemma put_append_cons (h : Distinct (done ++ (key, old) :: rest)) (new : Value) :
    put (done ++ (key, old) :: rest) key new = done ++ (key, new) :: rest := by
  induction done with
  | nil =>
    rw [List.nil_append, put, if_pos (Value.sameKey_self _ (h.isKey (key, old) List.mem_cons_self))]
    rfl
  | cons e done ih =>
    have hne : e.1.sameKey key = false :=
      (List.pairwise_cons.mp h.pairwise).1 (key, old) (by simp)
    rw [List.cons_append, put, if_neg (by simp [hne]), ih h.tail]
    rfl

end Mapping

namespace Store

variable {σ : Store} {P : Nat → Prop}

/-- The field with a number holds the entry with this number. -/
lemma HoldsAll.getElem? {fields : Fields} {m : Mapping} (h : HoldsAll σ P fields m) (i : Nat) :
    Option.Rel (fun field entry => field.1 = entry.1 ∧ Holds σ P field.2 entry.2)
      fields[i]? m[i]? := by
  induction fields generalizing m i with
  | nil =>
    cases m with
    | nil => exact .none
    | cons => exact h.elim
  | cons field rest ih =>
    cases m with
    | nil => exact h.elim
    | cons entry entries =>
      obtain ⟨hkey, hslot, hrest⟩ := h
      cases i with
      | zero => exact .some ⟨hkey, hslot⟩
      | succ i => exact ih hrest i

/-! ### Overriding -/

variable {env : Environment}

/-- A slot that holds a value under a path comes, overridden, to a slot that holds the value
overridden, or to its error. -/
def SlotOverrides (env : Environment) (v path : Value) : Prop :=
  v.Keyed → ∀ (σ : Store) (P : Nat → Prop) (slot : Slot), Holds σ P slot v → ∃ outcome τ,
    Run.Ends (fun k => overrideSlot env k slot path) σ outcome τ ∧ Keeps (fun _ => True) σ τ ∧
      Both (Holds τ fun p => P p ∨ σ.length ≤ p) outcome (Override.value env v path)

/-- The entries of a mapping in a new place, after those that had their turn, come to the entries
overridden there, or to their error. -/
def FieldsOverride (env : Environment) (rest : Mapping) (path : Value) : Prop :=
  (∀ e ∈ rest, e.2.Keyed) → ∀ (σ : Store) (P : Nat → Prop) (done : Mapping) (r : Nat)
    (fields : Fields), (∀ p, r < p → P p) → ¬ P r → σ[r]? = some fields →
    HoldsAll σ P fields (done ++ rest) → (done ++ rest).Distinct → ∃ outcome τ,
      Run.Ends (fun k => overrideFrom env k r path done.length) σ outcome τ ∧
        Keeps (· ≠ r) σ τ ∧ Both (fun _ others => ∃ fields', τ[r]? = some fields' ∧
          HoldsAll τ P fields' (done ++ others)) outcome (Override.entriesUnder env rest path)

/-- A mapping in a place, overridden. -/
lemma ends_override_of_fields {m : Mapping} {path : Value} (h : FieldsOverride env m path)
    (hm : (Value.map m).Keyed) {p : Nat} (hp : Holds σ P (.place p) (.map m)) :
    ∃ outcome τ, Run.Ends (fun k => override env k p path) σ outcome τ ∧
      Keeps (fun _ => True) σ τ ∧
      Both (fun q new => Holds τ (fun p => P p ∨ σ.length ≤ p) (.place q) (.map new)) outcome
        (Override.entriesUnder env m path) := by
  obtain ⟨hdistinct, hvalues⟩ := hm.of_map
  obtain ⟨-, fields, hfields, -⟩ := holds_place_iff.mp hp
  have hnew : (σ ++ [fields])[σ.length]? = some fields := by simp
  obtain ⟨outcome, τ, hrun, hkeeps, hboth⟩ := h hvalues _ _ [] σ.length fields
    (fun p hp => .inr hp) (not_beside P _) hnew (hp.copied hfields) hdistinct
  rw [List.length_nil] at hrun
  generalize Override.entriesUnder env m path = overridden at hboth ⊢
  cases hboth with
  | ok hresult =>
    obtain ⟨fields', hresult, hoverridden⟩ := hresult
    have hplace : Run.Ends (fun _ => (pure σ.length : Run OverrideError Nat)) τ (.ok σ.length) τ :=
      .of_eval fun _ => rfl
    refine ⟨.ok σ.length, τ, ?_, hkeeps.of_copied, .ok ?_⟩
    · refine (hrun.bind (f := fun _ _ => pure σ.length) hplace).of_step fun k => ?_
      rw [override, Run.eval_bind_of_ok (eval_copy hfields)]
    · exact holds_place_iff.mpr ⟨.inr (Nat.le_refl _), fields', hresult,
        hoverridden.weaken fun p hp => hp.imp And.left Nat.le_of_lt⟩
  | error e =>
    refine ⟨.error e, τ, ?_, hkeeps.of_copied, .error e⟩
    refine (hrun.bind_of_error fun _ _ => pure σ.length).of_step fun k => ?_
    rw [override, Run.eval_bind_of_ok (eval_copy hfields)]

/-- One step of the loop: the entry whose turn it is is overridden where it stands, and the loop
goes on with the next one, unless there is an error. -/
lemma FieldsOverride.cons {key old path : Value} {rest : Mapping}
    (hslot : ∀ below, SlotOverrides env old below)
    (hrest : FieldsOverride env rest path) : FieldsOverride env ((key, old) :: rest) path := by
  intro hkeyed σ P done r fields habove hr hfields hall hdistinct
  obtain ⟨hold, hothers⟩ := List.forall_mem_cons.mp hkeyed
  obtain ⟨field, hfield, hkey, hheld⟩ : ∃ field, fields[done.length]? = some field ∧
      field.1 = key ∧ Holds σ P field.2 old := by
    have hrel := hall.getElem? done.length
    rw [List.getElem?_append_right (Nat.le_refl _), Nat.sub_self, List.getElem?_cons_zero] at hrel
    generalize fields[done.length]? = found at hrel
    cases hrel with
    | some h => exact ⟨_, rfl, h⟩
  have hread : ∀ k, (overrideFrom env (k + 1) r path done.length).eval σ =
      (liftExcept (Override.join path key) >>= fun below => overrideSlot env k field.2 below >>=
        fun new => write r key new >>= fun _ =>
          overrideFrom env k r path (done.length + 1)).eval σ := by
    intro k
    rw [overrideFrom, Run.eval_bind_of_ok (eval_entries hfields)]
    simp only [hfield, ← hkey]
  rw [Override.entriesUnder]
  cases hjoin : Override.join path key with
  | error e =>
    refine ⟨.error e, σ, ?_, fun _ _ _ h => h, .error e⟩
    have hfailed : Run.Ends (fun _ => (liftExcept (.error e) : Run OverrideError Value)) σ
        (.error e) σ := .of_eval fun _ => Run.eval_liftExcept _ _
    rw [hjoin] at hread
    exact (hfailed.bind_of_error _).of_step hread
  | ok below =>
  obtain ⟨outcome, τ, hrun, hkeeps, hboth⟩ := hslot below hold σ P field.2 hheld
  have hstep : ∀ k, (overrideFrom env (k + 1) r path done.length).eval σ =
      (overrideSlot env k field.2 below >>= fun new =>
        write r key new >>= fun _ => overrideFrom env k r path (done.length + 1)).eval σ := by
    intro k
    rw [hread, hjoin, Run.eval_bind_of_ok (Run.eval_liftExcept _ _)]
  show ∃ outcome τ, _ ∧ _ ∧ Both _ outcome (Override.value env old below >>= _)
  generalize Override.value env old below = overridden at hboth ⊢
  cases hboth with
  | error e =>
    exact ⟨.error e, τ, (hrun.bind_of_error _).of_step hstep, hkeeps.of_all, .error e⟩
  | @ok new w hnew =>
    obtain ⟨hnew, hwrite, hwritten, hfound⟩ := holds_written hkeeps habove hr hfields hnew key
    have hput := (hkeeps.of_all.holdsAll hall).put hnew key
    rw [Mapping.put_append_cons hdistinct, List.append_cons] at hput
    have hkeys : (done ++ [(key, w)] ++ rest).Distinct :=
      hdistinct.of_keys (by simp)
    obtain ⟨outcome, υ, hloop, hkept, hboth⟩ := hrest hothers _ P (done ++ [(key, w)]) r
      (fields.put key new) habove hr hfound (hwrite.holdsAll hput) hkeys
    refine ⟨outcome, υ, ?_, hwritten.trans hkept, ?_⟩
    · have hgoOn : Run.Ends (fun k => write r key new >>= fun _ =>
          overrideFrom env k r path (done.length + 1)) τ outcome υ := by
        rw [List.length_append] at hloop
        exact .bind (f := fun k _ => overrideFrom env k r path (done.length + 1))
          (.of_eval fun _ => eval_write _ _) hloop
      exact (hrun.bind (f := fun k new => write r key new >>= fun _ =>
        overrideFrom env k r path (done.length + 1)) hgoOn).of_step hstep
    · generalize Override.entriesUnder env rest path = others at hboth ⊢
      cases hboth with
      | error e => exact .error e
      | ok h => exact .ok (by simpa using h)

/-- Every mapping is overridden in this way.

**Proof sketch.** Induction along `Override.entriesUnder` and `Override.value`, for all stores at
once: the loop over the entries is one step (`FieldsOverride.cons`) after the other, and a mapping
under a key is overridden by a loop of its own on a copy (`ends_override_of_fields`). -/
lemma fieldsOverride (env : Environment) (m : Mapping) (path : Value) :
    FieldsOverride env m path := by
  refine Override.entriesUnder.induct (SlotOverrides env) (FieldsOverride env) ?map ?leaf ?nil ?cons
    m path
  case map =>
    intro entries path ih hkeyed σ P slot hslot
    obtain ⟨p, rfl⟩ := exists_of_holds_map hslot
    obtain ⟨outcome, τ, hrun, hkeeps, hboth⟩ := ends_override_of_fields ih hkeyed hslot
    refine ⟨outcome.map .place, τ, ?_, hkeeps, ?_⟩
    · exact (hrun.map Slot.place).of_step fun k => by rw [overrideSlot]
    · rw [Override.value]
      generalize Override.entriesUnder env entries path = overridden at hboth ⊢
      cases hboth with
      | error e => exact .error e
      | ok h => exact .ok h
  case leaf =>
    intro v path hv _ σ P slot hslot
    cases slot with
    | place p =>
      obtain ⟨entries, rfl⟩ := exists_of_holds_place hslot
      exact absurd rfl (hv entries)
    | value w =>
      rw [Holds] at hslot
      obtain ⟨rfl, -⟩ := hslot
      refine ⟨(Override.leaf env path w).map .value, σ, ?_, fun _ _ _ h => h, ?_⟩
      · have hleaf : Run.Ends (fun _ => Slot.value <$> liftExcept (Override.leaf env path w)) σ
            ((Override.leaf env path w).map Slot.value) σ :=
          Run.Ends.map (.of_eval fun _ => Run.eval_liftExcept _ _) Slot.value
        exact hleaf.of_step fun k => by rw [overrideSlot]
      · rw [Override.value]
        · cases hleaf : Override.leaf env path w with
          | error e => exact .error e
          | ok new =>
            refine .ok ?_
            rw [Holds]
            refine ⟨rfl, ?_⟩
            cases new with
            | map entries => exact absurd rfl (Override.ne_map_of_leaf hleaf hv entries)
            | _ => rfl
        · exact hv
  case nil =>
    intro path _ σ P done r fields _ _ hfields hall _
    have hend : fields[done.length]? = none := by
      have hrel := hall.getElem? done.length
      rw [List.append_nil, List.getElem?_eq_none (Nat.le_refl _)] at hrel
      generalize fields[done.length]? = found at hrel ⊢
      cases hrel with
      | none => rfl
    have hdone : Run.Ends (fun _ => (pure () : Run OverrideError Unit)) σ (.ok ()) σ :=
      .of_eval fun _ => rfl
    refine ⟨.ok (), σ, hdone.of_step fun k => ?_, fun _ _ _ h => h, .ok ⟨fields, hfields, hall⟩⟩
    rw [overrideFrom, Run.eval_bind_of_ok (eval_entries hfields)]
    simp only [hend]
  case cons =>
    intro key old rest path hslot hrest
    exact .cons hslot hrest

/-- **Overriding in a store.** A place that holds a mapping is overridden as the mapping is: the new
place holds the mapping with its values overridden, or there is its error. Either way, whatever was
stored before stays as it was. -/
theorem ends_override {m : Mapping} (hm : (Value.map m).Keyed) {p : Nat}
    (hp : Holds σ P (.place p) (.map m)) (env : Environment) (path : Value) :
    ∃ outcome τ, Run.Ends (fun k => override env k p path) σ outcome τ ∧
      Keeps (fun _ => True) σ τ ∧
      Both (fun q new => Holds τ (fun p => P p ∨ σ.length ≤ p) (.place q) (.map new)) outcome
        (Override.entriesUnder env m path) :=
  ends_override_of_fields (fieldsOverride env m path) hm hp

end Store

end RunnerAtlas
