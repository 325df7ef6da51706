import Mathlib.Data.List.Forall2
import RunnerAtlas.Proofs.Candidates
import RunnerAtlas.Proofs.Outcomes

set_option relaxedAutoImplicit false
set_option autoImplicit false

/-!
# What the checks of records accept

A check succeeds exactly on the values that it is for. The lemmas say so for the checks of single
values, of sequences and of the fields of a record.

## Main definitions

* `RunnerAtlas.Device.IsComplete` — a device whose three texts have a character each.

## Main results

* `RunnerAtlas.Validation.sequence_eq_ok_iff` — which sequences are accepted.
* `RunnerAtlas.Device.exists_ofRecord_eq_ok_iff` — the devices of records are the complete ones.
-/

namespace RunnerAtlas

namespace Validation

open Outcome

variable {α : Type}

/-- A part is accepted under a step exactly if it is accepted. -/
lemma under_eq_ok_iff (step : Step) (x : Checked α) (a : α) : x.under step = .ok a ↔ x = .ok a :=
  mapError_eq_ok_iff _ x a

/-- A record is accepted exactly if its check succeeds. -/
lemma report_eq_ok_iff (model : String) (x : Checked α) (a : α) :
    x.report model = .ok a ↔ x = .ok a :=
  mapError_eq_ok_iff _ x a

/-- A text with a character is accepted from the values that stand for one. -/
lemma nonemptyText_eq_ok_iff (v : Value) (s : String) :
    nonemptyText v = .ok s ↔ v.Spells s ∧ s ≠ "" := by
  rw [nonemptyText, bind_eq_ok_iff]
  simp only [text_eq_ok_iff]
  constructor
  · rintro ⟨t, ht, h⟩
    by_cases hempty : t = ""
    · rw [if_pos hempty] at h; cases h
    · rw [if_neg hempty] at h
      cases h
      exact ⟨ht, hempty⟩
  · rintro ⟨hs, hne⟩
    exact ⟨s, hs, by rw [if_neg hne]; rfl⟩

/-- One text of a list of choices is accepted from the values that stand for it. -/
lemma choice_eq_ok_iff (pattern : String) (choices : List String) (v : Value) (s : String) :
    choice pattern choices v = .ok s ↔ v.Spells s ∧ s ∈ choices := by
  rw [choice, bind_eq_ok_iff]
  simp only [text_eq_ok_iff]
  constructor
  · rintro ⟨t, ht, h⟩
    by_cases hmem : choices.contains t = true
    · rw [if_pos hmem] at h
      cases h
      exact ⟨ht, List.contains_iff_mem.mp hmem⟩
    · rw [if_neg hmem] at h; cases h
  · rintro ⟨hs, hmem⟩
    exact ⟨s, hs, by rw [if_pos (List.contains_iff_mem.mpr hmem)]; rfl⟩

/-- All members of a list are accepted exactly if each one is. -/
lemma all_eq_ok_iff (check : Value → Checked α) (n : Nat) (vs : List Value) (as : List α) :
    all check n vs = .ok as ↔ List.Forall₂ (fun v a => check v = .ok a) vs as := by
  induction vs generalizing n as with
  | nil => simp [all, eq_comm]
  | cons v vs ih =>
    simp only [all, Checked.ap_eq_ok_iff, map_eq_ok_iff, under_eq_ok_iff, ih,
      List.forall₂_cons_left_iff]
    constructor
    · rintro ⟨_, others, ⟨a, ha, rfl⟩, ho, rfl⟩
      exact ⟨a, others, ha, ho, rfl⟩
    · rintro ⟨a, others, ha, ho, rfl⟩
      exact ⟨_, others, ⟨a, ha, rfl⟩, ho, rfl⟩

/-- A sequence is accepted exactly if it is one and each of its members is accepted. -/
theorem sequence_eq_ok_iff (check : Value → Checked α) (v : Value) (as : List α) :
    sequence check v = .ok as ↔
      ∃ items, members? v = some items ∧ List.Forall₂ (fun v a => check v = .ok a) items as := by
  unfold sequence
  cases members? v with
  | none => simp [Checked.fail]
  | some items => simp [all_eq_ok_iff]

/-- A field that must be present is accepted exactly if it is there with a value that is. -/
lemma required_eq_ok_iff (entries : Mapping) (name : String) (check : Value → Checked α) (a : α) :
    required entries name check = .ok a ↔
      ∃ v, entries.find? name = some v ∧ check v = .ok a := by
  unfold required
  cases entries.find? name with
  | none => simp [under_eq_ok_iff, Checked.fail]
  | some v => simp [under_eq_ok_iff]

end Validation

/-! ### Devices -/

namespace Device

open Outcome Validation

/-- A device whose name, identifier and identifier of the runtime have a character each. -/
def IsComplete (d : Device) : Prop := d.name ≠ "" ∧ d.udid ≠ "" ∧ d.runtimeIdentifier ≠ ""

/-- A record is accepted as a device exactly if each field is accepted as that of the device. -/
lemma ofRecord_eq_ok_iff (entries : Mapping) (d : Device) :
    ofRecord entries = .ok d ↔
      required entries "name" nonemptyText = .ok d.name ∧
      required entries "udid" nonemptyText = .ok d.udid ∧
      required entries "runtime_identifier" nonemptyText = .ok d.runtimeIdentifier ∧
      Validation.optional entries "state" text? none = .ok d.state ∧
      Validation.optional entries "is_available" truth true = .ok d.isAvailable := by
  simp only [ofRecord, check, report_eq_ok_iff, Checked.ap_eq_ok_iff]
  constructor
  · rintro ⟨_, _, ⟨_, _, ⟨_, _, ⟨_, _, ⟨_, _, h, hname, rfl⟩, hudid, rfl⟩, hruntime, rfl⟩, hstate,
      rfl⟩, havailable, rfl⟩
    cases h
    exact ⟨hname, hudid, hruntime, hstate, havailable⟩
  · rintro ⟨hname, hudid, hruntime, hstate, havailable⟩
    exact ⟨_, _, ⟨_, _, ⟨_, _, ⟨_, _, ⟨_, _, rfl, hname, rfl⟩, hudid, rfl⟩, hruntime, rfl⟩, hstate,
      rfl⟩, havailable, rfl⟩

/-- A record that is accepted makes a complete device. -/
lemma isComplete_of_ofRecord {entries : Mapping} {d : Device} (h : ofRecord entries = .ok d) :
    d.IsComplete := by
  simp only [ofRecord_eq_ok_iff, required_eq_ok_iff, nonemptyText_eq_ok_iff] at h
  obtain ⟨⟨_, -, -, hname⟩, ⟨_, -, -, hudid⟩, ⟨_, -, -, hruntime⟩, -, -⟩ := h
  exact ⟨hname, hudid, hruntime⟩

/-- The entries of a device. -/
def entries (d : Device) : Mapping :=
  [(.str "name", .str d.name), (.str "udid", .str d.udid),
    (.str "runtime_identifier", .str d.runtimeIdentifier),
    (.str "state", (d.state.map Value.str).getD .null), (.str "is_available", .bool d.isAvailable)]

/-- The entries of a complete device are accepted as the device. -/
lemma ofRecord_entries {d : Device} (h : d.IsComplete) : ofRecord d.entries = .ok d := by
  have htext : ∀ {s : String}, s ≠ "" → nonemptyText (.str s) = .ok s := fun hs =>
    (nonemptyText_eq_ok_iff _ _).mpr ⟨.str _, hs⟩
  simp only [ofRecord_eq_ok_iff, required_eq_ok_iff]
  refine ⟨⟨_, rfl, htext h.1⟩, ⟨_, rfl, htext h.2.1⟩, ⟨_, rfl, htext h.2.2⟩, ?_, rfl⟩
  show (text? ((d.state.map Value.str).getD .null)).under (.field "state") = .ok d.state
  cases d.state <;> rfl

/-- **Checked devices.** The devices that records are accepted as are exactly the complete ones. -/
theorem exists_ofRecord_eq_ok_iff (d : Device) :
    (∃ entries, ofRecord entries = .ok d) ↔ d.IsComplete :=
  ⟨fun ⟨_, h⟩ => isComplete_of_ofRecord h, fun h => ⟨d.entries, ofRecord_entries h⟩⟩

end Device

end RunnerAtlas
