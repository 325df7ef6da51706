import RunnerAtlas.Proofs.CheckedInventory
import RunnerAtlas.Proofs.Listing
import RunnerAtlas.Proofs.LiteralSearch

set_option relaxedAutoImplicit false
set_option autoImplicit false

/-!
# Available devices only

The devices of a listing that are not available are left out after the whole listing was read, so
that a malformed record is an error even if its device would be left out. What is left matches what
it matched before: a project that is resolved against all devices is resolved against the available
ones too, into the same entries with the runners of the available devices.

## Main definitions

* `RunnerAtlas.Listing.availability` — what a record says about the availability of its device.
* `RunnerAtlas.Matching.found` — the runners of the devices that a platform matches.

## Main results

* `RunnerAtlas.Listing.truth_availability` — which devices are available.
* `RunnerAtlas.Listing.devices_of_malformed` — a malformed record decides, available or not.
* `RunnerAtlas.Resolution.resolve_of_runners` — a project that is resolved against other devices.
* `RunnerAtlas.Resolution.resolve_available` — a project and a listing with its available devices.
-/

namespace RunnerAtlas

open Journal Outcome

/-! ### Listings -/

namespace Listing

/-- What a record says about the availability of its device, in the first of two spellings that it
has. A record that says nothing has an available device. -/
def availability (fields : Mapping) : Value :=
  (Mapping.find? fields "is_available").getD
    ((Mapping.find? fields "isAvailable").getD (.bool true))

/-- A device is available if its record says so. -/
theorem truth_availability {fields : Mapping} {index : Nat} {runtime : Option String} {d : Device}
    (h : device (.map fields) index runtime = .ok d) :
    Validation.truth (availability fields) = .ok d.isAvailable := by
  have hrecord := (mapError_eq_ok_iff _ _ _).mp h
  obtain ⟨-, -, -, -, havailable⟩ := (Device.ofRecord_eq_ok_iff _ d).mp hrecord
  exact (Validation.under_eq_ok_iff _ _ _).mp havailable

/-- The available devices are left of all devices. -/
lemma devices_true (data : Value) :
    devices data true = (devices data false).map (List.filter Device.isAvailable) := by
  simp only [devices]
  cases allDevices data <;> rfl

/-- A record of a flat list is accepted. -/
def IsRecord (record : Value) : Prop :=
  ∃ fields d, record = .map fields ∧ Device.ofRecord (fieldsOf fields none) = .ok d

/-- A malformed record after accepted ones ends the loop over records at its position. -/
lemma devicesFrom_of_malformed {before after : List Value} {fields : Mapping}
    {report : Validation.Invalid} (hbefore : ∀ record ∈ before, IsRecord record)
    (hrecord : Device.ofRecord (fieldsOf fields none) = .error report) (index : Nat) :
    devicesFrom none index (before ++ .map fields :: after) =
      .error (.of (index + before.length : Nat) (Mapping.findD fields "name")
        (.invalid report)) := by
  induction before generalizing index with
  | nil =>
    simp only [List.nil_append, devicesFrom, device, hrecord]
    rfl
  | cons record rest ih =>
    obtain ⟨⟨own, d, rfl, hd⟩, hrest⟩ := List.forall_mem_cons.mp hbefore
    have hindex : index + 1 + rest.length = index + (Value.map own :: rest).length := by
      simp only [List.length_cons]; omega
    simp only [List.cons_append, devicesFrom, device, hd, ih hrest, hindex]
    rfl

/-- The first malformed record decides, whatever it says about the availability of its device. -/
theorem devices_of_malformed {before after : List Value} {fields : Mapping}
    {report : Validation.Invalid} (hbefore : ∀ record ∈ before, IsRecord record)
    (hrecord : Device.ofRecord (fieldsOf fields none) = .error report) (availableOnly : Bool) :
    devices (.list (before ++ .map fields :: after)) availableOnly =
      .error (.of before.length (Mapping.findD fields "name") (.invalid report)) := by
  simp only [devices, allDevices, devicesFrom_of_malformed hbefore hrecord, Nat.zero_add]
  rfl

end Listing

/-! ### Matching -/

namespace Matching

/-- The runners of the devices that a platform matches. A platform that cannot be searched for
matches none. -/
def found (devices : List Device) (options : MatchOptions) (platform : String) : List Runner :=
  match Platform.compile platform options with
  | .ok p => (devices.filter fun d => p.matchesIn d.runtimeIdentifier).map Device.runner
  | .error _ => []

variable {devices others : List Device} {options : MatchOptions} {platform : String}
  {rs : List Runner}

/-- Over complete devices the runners are those of the devices that the platform matches. -/
lemma eq_found (h : ∀ d ∈ devices, d.IsComplete)
    (hrs : (runners platform (devices.map Device.candidate) options).outcome = .ok rs) :
    rs = found devices options platform := by
  rw [outcome_candidates h] at hrs
  unfold found
  cases hp : Platform.compile platform options with
  | error e => rw [hp] at hrs; cases hrs
  | ok p => rw [hp] at hrs; exact (Except.ok.inj hrs).symm

/-- A platform that has runners over some complete devices has runners over others. -/
lemma outcome_eq_found (h : ∀ d ∈ devices, d.IsComplete) (ho : ∀ d ∈ others, d.IsComplete)
    (hrs : (runners platform (devices.map Device.candidate) options).outcome = .ok rs) :
    (runners platform (others.map Device.candidate) options).outcome =
      .ok (found others options platform) := by
  obtain ⟨p, hp⟩ := (exists_outcome_candidates_eq_ok_iff h platform options).mp ⟨rs, hrs⟩
  rw [outcome_candidates ho, found, hp]

end Matching

/-! ### Resolution -/

namespace Resolution

variable {project : Project} {supply supply' : Supply} {options : MatchOptions} {es : List Entry}

/-- An entry has the runners of its platform. -/
lemma runners_of_mem (h : (resolve project supply options).1.outcome = .ok es) {e : Entry}
    (he : e ∈ es) :
    (Matching.runners e.platform supply.devices options).outcome = .ok e.runners := by
  obtain ⟨groups, rfl, hg⟩ := (resolve_eq_ok_iff project supply options es).mp h
  obtain ⟨g, hgm, heg⟩ := List.mem_flatten.mp he
  obtain ⟨t, -, -, -, ht⟩ := exists_of_forall₂_of_mem hg hgm
  obtain ⟨p, -, hrunners, -, rfl, -⟩ := exists_of_forall₂_of_mem ht heg
  exact hrunners

/-- A project that is resolved against some devices is resolved against others into the same entries
with other runners, if every platform that has runners over the former has these over the latter.

**Proof sketch.** The entries of the one resolution correspond to the declared platforms, and with
the other runners they do so too (`resolve_eq_ok_iff`). -/
theorem resolve_of_runners (others : String → List Runner)
    (hothers : ∀ p rs, (Matching.runners p supply.devices options).outcome = .ok rs →
      (Matching.runners p supply'.devices options).outcome = .ok (others p))
    (h : (resolve project supply options).1.outcome = .ok es) :
    (resolve project supply' options).1.outcome =
      .ok (es.map fun e => { e with runners := others e.platform }) := by
  obtain ⟨groups, rfl, hg⟩ := (resolve_eq_ok_iff project supply options es).mp h
  refine (resolve_eq_ok_iff project supply' options _).mpr ⟨_, (List.map_flatten ..).symm, ?_⟩
  refine List.forall₂_map_right_iff.mpr (hg.imp ?_)
  rintro t g ⟨hne, hd, hentries⟩
  refine ⟨hne, hd, List.forall₂_map_right_iff.mpr (hentries.imp ?_)⟩
  rintro p e ⟨hrunners, htarget, rfl, hname⟩
  exact ⟨hothers _ _ hrunners, htarget, rfl, hname⟩

/-- **Available devices only.** A listing is refused with the same error whether all devices or the
available ones are asked for, and a malformed record is refused even if its device would not be
asked for. Otherwise the available devices are those of all devices that are available, in order. A
project that is resolved against all devices is resolved against the available ones into entries
with the same names and keys, in the same order, and the runners of an entry are those of the
available devices that its platform matches, which are some of its runners among all devices.

**Proof sketch.** The devices are left out after all of them were read (`devices_true`). Devices of
a listing are complete, so that a platform has runners over the ones exactly if it has runners over
the others (`Matching.outcome_eq_found`), and these take the place of the runners in each entry
(`resolve_of_runners`). -/
theorem resolve_available (data : Value) :
    (∀ error, Listing.devices data true = .error error ↔
        Listing.devices data false = .error error) ∧
      (∀ (before after : List Value) (fields : Mapping) (report : Validation.Invalid),
        data = .list (before ++ .map fields :: after) →
        (∀ record ∈ before, Listing.IsRecord record) →
        Device.ofRecord (Listing.fieldsOf fields none) = .error report →
        Listing.devices data true =
          .error (.of before.length (Mapping.findD fields "name") (.invalid report))) ∧
      ∀ devices, Listing.devices data false = .ok devices →
        Listing.devices data true = .ok (devices.filter Device.isAvailable) ∧
        ∀ (project : Project) (options : MatchOptions) (all available : Supply) (es : List Entry),
          all.devices = devices.map Device.candidate →
          available.devices = (devices.filter Device.isAvailable).map Device.candidate →
          (resolve project all options).1.outcome = .ok es →
          ∃ es', (resolve project available options).1.outcome = .ok es' ∧
            es'.map Entry.name = es.map Entry.name ∧ es'.map Entry.key = es.map Entry.key ∧
            List.Forall₂ (fun e e' => ∃ p, Platform.compile e.platform options = .ok p ∧
              e'.runners = (devices.filter fun d =>
                p.matchesIn d.runtimeIdentifier && d.isAvailable).map Device.runner ∧
              e'.runners.Sublist e.runners) es es' := by
  refine ⟨fun error => ?_, ?_, fun devices hdevices => ⟨?_, ?_⟩⟩
  · rw [Listing.devices_true, map_eq_error_iff]
  · rintro before after fields report rfl hbefore hrecord
    exact Listing.devices_of_malformed hbefore hrecord true
  · rw [Listing.devices_true, hdevices]
    rfl
  · intro project options all available es hall havailable hes
    have hcomplete := Listing.isComplete_of_mem_devices hdevices
    have hsome : ∀ d ∈ devices.filter Device.isAvailable, d.IsComplete := fun d hd =>
      hcomplete d (List.mem_filter.mp hd).1
    refine ⟨_, resolve_of_runners (Matching.found (devices.filter Device.isAvailable) options) ?_
      hes, ?_, ?_, ?_⟩
    · intro p rs hrs
      rw [hall] at hrs
      rw [havailable]
      exact Matching.outcome_eq_found hcomplete hsome hrs
    · rw [List.map_map]
      rfl
    · rw [List.map_map]
      rfl
    · refine List.forall₂_map_right_iff.mpr (List.forall₂_same.mpr fun e he => ?_)
      have hrunners := runners_of_mem hes he
      rw [hall] at hrunners
      obtain ⟨p, hp⟩ :=
        (Matching.exists_outcome_candidates_eq_ok_iff hcomplete _ _).mp ⟨_, hrunners⟩
      rw [Matching.eq_found hcomplete hrunners]
      refine ⟨p, hp, ?_, ?_⟩
      · simp only [Matching.found, hp, List.filter_filter]
      · simp only [Matching.found, hp]
        exact (List.filter_sublist.filter _).map _

/-- A phone that is not available, by the second spelling of the field, is no runner of its target
among the available devices. A record without an identifier of a runtime after it is refused, though
it says that its device is not available either. -/
theorem resolve_available_second_spelling :
    let phone : Value := .map [(.str "name", .str "Phone"), (.str "udid", .str "P"),
      (.str "runtimeIdentifier", .str "iOS-17"), (.str "isAvailable", .bool false)]
    let pad : Value := .map [(.str "name", .str "Pad"), (.str "udid", .str "Q"),
      (.str "runtime_identifier", .str "iOS-18")]
    let ghost : Mapping := [(.str "name", .str "Ghost"), (.str "udid", .str "G"),
      (.str "is_available", .bool false)]
    let project : Project := ⟨none, { toList := [("App", ⟨"App", ["iOS", "tvOS"]⟩)] }⟩
    ∃ devices, Listing.devices (.list [phone, pad]) false = .ok devices ∧
      Listing.devices (.list [phone, pad]) true = .ok (devices.filter Device.isAvailable) ∧
      (resolve project (.list (devices.map Device.candidate)) ⟨false, true⟩).1.outcome =
        .ok [⟨"App_iOS", "App", "iOS", [⟨"Phone", "P"⟩, ⟨"Pad", "Q"⟩]⟩,
          ⟨"App_tvOS", "App", "tvOS", []⟩] ∧
      (∃ es, (resolve project
          (.list ((devices.filter Device.isAvailable).map Device.candidate))
          ⟨false, true⟩).1.outcome = .ok es ∧
        es.map Entry.name = ["App_iOS", "App_tvOS"] ∧
        es.map Entry.runners = [[⟨"Pad", "Q"⟩], []]) ∧
      ∃ name fault, Listing.devices (.list [phone, pad, .map ghost]) true =
        .error (.malformed 2 name fault) := by
  intro phone pad ghost project
  have hdevices : Listing.devices (.list [phone, pad]) false =
      .ok [⟨"Phone", "P", "iOS-17", none, false⟩, ⟨"Pad", "Q", "iOS-18", none, true⟩] := rfl
  have hes : (resolve project (.list ([⟨"Phone", "P", "iOS-17", none, false⟩,
      ⟨"Pad", "Q", "iOS-18", none, true⟩].map Device.candidate)) ⟨false, true⟩).1.outcome =
      .ok [⟨"App_iOS", "App", "iOS", [⟨"Phone", "P"⟩, ⟨"Pad", "Q"⟩]⟩,
        ⟨"App_tvOS", "App", "tvOS", []⟩] := eq_ok_of_toOption (by decide +kernel)
  obtain ⟨-, -, hok⟩ := resolve_available (.list [phone, pad])
  obtain ⟨havailable, hresolve⟩ := hok _ hdevices
  refine ⟨_, hdevices, havailable, hes, ?_, ?_⟩
  · obtain ⟨es, h, hnames, -, hrunners⟩ := hresolve project _ _ (.list _) _ rfl rfl hes
    refine ⟨es, h, hnames, ?_⟩
    obtain ⟨e, _, ⟨p, hp, he, -⟩, hrest, rfl⟩ := List.forall₂_cons_left_iff.mp hrunners
    obtain ⟨e', _, ⟨p', hp', he', -⟩, hnil, rfl⟩ := List.forall₂_cons_left_iff.mp hrest
    cases hnil
    obtain rfl := Except.ok.inj (hp.symm.trans (Platform.compile_literal "iOS" false))
    obtain rfl := Except.ok.inj (hp'.symm.trans (Platform.compile_literal "tvOS" false))
    simp only [List.map_cons, List.map_nil, he, he']
    decide +kernel
  · obtain ⟨-, hmalformed, -⟩ := resolve_available (.list [phone, pad, .map ghost])
    refine ⟨_, _, (hmalformed [phone, pad] [] ghost _ rfl ?_ rfl).trans
      (congrArg Except.error (InventoryError.of_eq_malformed (by decide) rfl rfl))⟩
    · intro record hrecord
      simp only [List.mem_cons, List.not_mem_nil, or_false] at hrecord
      rcases hrecord with rfl | rfl
      · exact ⟨_, ⟨"Phone", "P", "iOS-17", none, false⟩, rfl, rfl⟩
      · exact ⟨_, ⟨"Pad", "Q", "iOS-18", none, true⟩, rfl, rfl⟩

end Resolution

end RunnerAtlas
