import RunnerAtlas.Proofs.Store.Basic
import RunnerAtlas.Store.Layers
import RunnerAtlas.Value.Merge

set_option relaxedAutoImplicit false
set_option autoImplicit false

/-!
# Merging in a store

A stored mapping laid over another one is held by a new place. Whatever was stored before is left as
it was, the two mappings included, even if they have places in common. The loop over the entries
writes into the new place alone, and the mappings below it that it changes are new as well.

## Main definitions

* `RunnerAtlas.Store.Beside` — the places that take part in what is written into a new one.

## Main results

* `RunnerAtlas.Store.ends_merge` — what a stored mapping laid over another one comes to.
-/

namespace RunnerAtlas.Store

variable {ε : Type} {σ : Store} {P : Nat → Prop}

/-! ### Writing into a new place -/

/-- The places that take part in what is written into a new place: those with a property that are
older, and those that are newer. -/
def Beside (P : Nat → Prop) (r : Nat) (p : Nat) : Prop := P p ∧ p < r ∨ r < p

/-- A new place does not take part in what is written into it. -/
lemma not_beside (P : Nat → Prop) (r : Nat) : ¬ Beside P r r := by
  simp [Beside]

/-- What a store holds takes no part in a place that it does not have yet. -/
lemma Holds.beside {slot : Slot} {v : Value} (h : Holds σ P slot v) (fields : Fields) :
    Holds (σ ++ [fields]) (Beside P σ.length) slot v := by
  refine holds_mono (fun p found hp hfound => ?_) slot v h
  obtain ⟨hlt, -⟩ := List.getElem?_eq_some_iff.mp hfound
  exact ⟨.inl ⟨hp, hlt⟩, keeps_append (P := P) σ fields p found hp hfound⟩

/-- A copy holds the same mapping, through the places of the original. -/
lemma Holds.copied {p : Nat} {fields : Fields} {m : Mapping} (h : Holds σ P (.place p) (.map m))
    (hfields : σ[p]? = some fields) : HoldsAll (σ ++ [fields]) (Beside P σ.length) fields m := by
  obtain ⟨-, found, hfound, hall⟩ := holds_place_iff.mp (h.beside fields)
  have hkept := keeps_append (P := fun _ => True) σ fields p fields trivial hfields
  rwa [Option.some.inj (hfound.symm.trans hkept)] at hall

/-- What leaves all mappings but a copy as they are leaves those from before the copy. -/
lemma Keeps.of_copied {τ : Store} {fields : Fields}
    (h : Keeps (· ≠ σ.length) (σ ++ [fields]) τ) : Keeps (fun _ => True) σ τ := by
  intro p found _ hp
  obtain ⟨hlt, -⟩ := List.getElem?_eq_some_iff.mp hp
  exact h p found (Nat.ne_of_lt hlt) (keeps_append (P := fun _ => True) σ _ p found trivial hp)

/-- A new slot is written into a new place. The slot holds what it held, through places that take
part, and only the new place is changed. -/
lemma holds_written {τ : Store} {r : Nat} {fields : Fields} {new : Slot} {w : Value}
    (hkeeps : Keeps (fun _ => True) σ τ) (habove : ∀ p, r < p → P p) (hr : ¬ P r)
    (hfields : σ[r]? = some fields) (hnew : Holds τ (fun p => P p ∨ σ.length ≤ p) new w)
    (key : Value) :
    Holds τ P new w ∧ Keeps P τ (τ.modify r fun fields => fields.put key new) ∧
      Keeps (· ≠ r) σ (τ.modify r fun fields => fields.put key new) ∧
      (τ.modify r fun fields => fields.put key new)[r]? = some (fields.put key new) := by
  have hlt : r < σ.length := (List.getElem?_eq_some_iff.mp hfields).1
  refine ⟨?_, fun p found hp => ?_, hkeeps.of_all.trans (keeps_modify τ r _), ?_⟩
  · exact hnew.weaken fun p hp => hp.elim id fun hp => habove p (by omega)
  · exact keeps_modify τ r _ p found (by rintro rfl; exact hr hp)
  · rw [List.getElem?_modify_eq, hkeeps r fields trivial hfields]
    rfl

/-! ### Merging -/

/-- Slots that hold values come, laid over each other, to a slot that holds the values laid over
each other. -/
def SlotsMerge (upper : Value) (lower : Option Value) : Prop :=
  ∀ (σ : Store) (P : Nat → Prop) (slot : Slot) (old : Option Slot), Holds σ P slot upper →
    Option.Rel (Holds σ P) old lower → ∃ new τ,
      Run.Ends (fun k => (mergeSlot k slot old : Run Empty Slot)) σ (.ok new) τ ∧
        Keeps (fun _ => True) σ τ ∧
        Holds τ (fun p => P p ∨ σ.length ≤ p) new (Mapping.mergeValue upper lower)

/-- The rest of a stored mapping comes, laid over a mapping in a new place, to the mappings laid
over each other there. -/
def FieldsMerge (updates base : Mapping) : Prop :=
  ∀ (σ : Store) (P : Nat → Prop) (u r i : Nat) (us fields : Fields), (∀ p, r < p → P p) → ¬ P r →
    P u → σ[u]? = some us → HoldsAll σ P (us.drop i) updates → σ[r]? = some fields →
    HoldsAll σ P fields base → ∃ fields' τ,
      Run.Ends (fun k => (mergeFrom k u r i : Run Empty Unit)) σ (.ok ()) τ ∧
        Keeps (· ≠ r) σ τ ∧ τ[r]? = some fields' ∧ HoldsAll τ P fields' (Mapping.merge updates base)

/-- Mappings in places, laid over each other. -/
lemma ends_merge_of_fields {updates base : Mapping} (h : FieldsMerge updates base) {u b : Nat}
    (hu : Holds σ P (.place u) (.map updates)) (hb : Holds σ P (.place b) (.map base)) :
    ∃ p τ, Run.Ends (fun k => (merge k u b : Run Empty Nat)) σ (.ok p) τ ∧
      Keeps (fun _ => True) σ τ ∧
      Holds τ (fun p => P p ∨ σ.length ≤ p) (.place p) (.map (Mapping.merge updates base)) := by
  obtain ⟨-, fields, hfields, -⟩ := holds_place_iff.mp hb
  obtain ⟨hplace, us, hus, hupdates⟩ := holds_place_iff.mp (hu.beside fields)
  have hnew : (σ ++ [fields])[σ.length]? = some fields := by simp
  obtain ⟨fields', τ, hrun, hkeeps, hresult, hmerged⟩ :=
    h _ _ u σ.length 0 us fields (fun p hp => .inr hp) (not_beside P _) hplace hus hupdates hnew
      (hb.copied hfields)
  refine ⟨σ.length, τ, ?_, hkeeps.of_copied,
    holds_place_iff.mpr ⟨.inr (Nat.le_refl _), fields', hresult, ?_⟩⟩
  · have hresult : Run.Ends (fun _ => (pure σ.length : Run Empty Nat)) τ (.ok σ.length) τ :=
      .of_eval fun _ => rfl
    refine (hrun.bind (f := fun _ _ => pure σ.length) hresult).of_step fun k => ?_
    rw [merge, Run.eval_bind_of_ok (eval_copy hfields)]
  · exact hmerged.weaken fun p hp => hp.imp And.left Nat.le_of_lt

/-- One step of the loop: the next field is laid over what its key finds, and the loop goes on. -/
lemma FieldsMerge.cons {key v : Value} {rest base : Mapping}
    (hslot : SlotsMerge v (Mapping.get? base key))
    (hrest : FieldsMerge rest
      (Mapping.put base key (Mapping.mergeValue v (Mapping.get? base key)))) :
    FieldsMerge ((key, v) :: rest) base := by
  intro σ P u r i us fields habove hr hu hus hupdates hfields hbase
  obtain ⟨field, others, hdrop⟩ : ∃ field others, us.drop i = field :: others := by
    cases h : us.drop i with
    | nil => rw [h] at hupdates; exact hupdates.elim
    | cons field others => exact ⟨field, others, rfl⟩
  have hith : us[i]? = some field := by
    rw [← List.head?_drop, hdrop, List.head?_cons]
  have htail : us.drop (i + 1) = others := by
    rw [← List.tail_drop, hdrop, List.tail_cons]
  rw [hdrop] at hupdates
  obtain ⟨rfl, hupper, hothers⟩ := hupdates
  obtain ⟨new, τ, hrun, hkeeps, hnew⟩ := hslot σ P field.2 _ hupper (hbase.get? field.1)
  obtain ⟨hnew, hwrite, hwritten, hput⟩ :=
    holds_written hkeeps habove hr hfields hnew field.1
  have hall := hkeeps.of_all.trans hwrite
  obtain ⟨fields', υ, hloop, hkept, hresult, hmerged⟩ :=
    hrest _ P u r (i + 1) us (fields.put field.1 new) habove hr hu (hall u us hu hus)
      (htail ▸ hall.holdsAll hothers) hput
      (hwrite.holdsAll ((hkeeps.of_all.holdsAll hbase).put hnew _))
  refine ⟨fields', υ, ?_, hwritten.trans hkept, hresult, ?_⟩
  · have hgoOn : Run.Ends (fun k => (write r field.1 new >>= fun _ =>
        mergeFrom k u r (i + 1) : Run Empty Unit)) τ (.ok ()) υ :=
      .bind (f := fun k _ => mergeFrom k u r (i + 1)) (.of_eval fun _ => eval_write _ _) hloop
    refine (hrun.bind (f := fun k new => write r field.1 new >>= fun _ =>
      mergeFrom k u r (i + 1)) hgoOn).of_step fun k => ?_
    rw [mergeFrom, Run.eval_bind_of_ok (eval_entries hus)]
    simp only [hith]
    rw [Run.eval_bind_of_ok (eval_entries hfields)]
  · rwa [Mapping.merge]

/-- Every mapping is laid over every other one in this way.

**Proof sketch.** Induction along `Mapping.merge` and `Mapping.mergeValue`, for all stores at once:
the loop over the entries is one step (`FieldsMerge.cons`) after the other, and where two mappings
meet, a loop of its own runs on a copy (`ends_merge_of_fields`). -/
lemma fieldsMerge (updates base : Mapping) : FieldsMerge updates base := by
  refine Mapping.merge.induct SlotsMerge FieldsMerge ?both ?value ?nil ?cons updates base
  case both =>
    intro updates base ih σ P slot old hupper hlower
    obtain ⟨u, rfl⟩ := exists_of_holds_map hupper
    cases hlower with
    | some hlower =>
    obtain ⟨b, rfl⟩ := exists_of_holds_map hlower
    obtain ⟨p, τ, hrun, hkeeps, hmerged⟩ := ends_merge_of_fields ih hupper hlower
    refine ⟨.place p, τ, ?_, hkeeps, hmerged⟩
    exact (hrun.map Slot.place).of_step fun k => by rw [mergeSlot]
  case value =>
    intro v lower hnot σ P slot old hupper hlower
    refine ⟨slot, σ, ?_, fun _ _ _ h => h, ?_⟩
    · have hslot : Run.Ends (fun _ => (pure slot : Run Empty Slot)) σ (.ok slot) σ :=
        .of_eval fun _ => rfl
      refine hslot.of_step fun k => ?_
      rw [mergeSlot]
      · rintro u b rfl rfl
        cases hlower with
        | some hlower =>
        obtain ⟨updates, rfl⟩ := exists_of_holds_place hupper
        obtain ⟨base, rfl⟩ := exists_of_holds_place hlower
        exact hnot updates base rfl rfl
    · rw [Mapping.mergeValue]
      · exact hupper.weaken fun p hp => .inl hp
      · exact hnot
  case nil =>
    intro base σ P u r i us fields _ _ _ hus hupdates hfields hbase
    have hend : us[i]? = none := by
      cases hdrop : us.drop i with
      | nil => rw [← List.head?_drop, hdrop, List.head?_nil]
      | cons => rw [hdrop] at hupdates; exact hupdates.elim
    refine ⟨fields, σ, ?_, fun _ _ _ h => h, hfields, ?_⟩
    · have hdone : Run.Ends (fun _ => (pure () : Run Empty Unit)) σ (.ok ()) σ :=
        .of_eval fun _ => rfl
      refine hdone.of_step fun k => ?_
      rw [mergeFrom, Run.eval_bind_of_ok (eval_entries hus)]
      simp only [hend]
    · rwa [Mapping.merge]
  case cons =>
    intro key v rest base hslot hrest
    exact .cons hslot hrest

/-- **Merging in a store.** Two places that hold mappings are merged without fail. The new place
holds the one mapping laid over the other one, and whatever was stored before stays as it was. -/
theorem ends_merge {updates base : Mapping} {u b : Nat} (hu : Holds σ P (.place u) (.map updates))
    (hb : Holds σ P (.place b) (.map base)) :
    ∃ p τ, Run.Ends (fun k => (merge k u b : Run Empty Nat)) σ (.ok p) τ ∧
      Keeps (fun _ => True) σ τ ∧
      Holds τ (fun p => P p ∨ σ.length ≤ p) (.place p) (.map (Mapping.merge updates base)) :=
  ends_merge_of_fields (fieldsMerge updates base) hu hb

end RunnerAtlas.Store
