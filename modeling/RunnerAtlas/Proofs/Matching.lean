import RunnerAtlas.Matching
import RunnerAtlas.Proofs.Candidates
import RunnerAtlas.Proofs.Outcomes

set_option relaxedAutoImplicit false
set_option autoImplicit false

/-!
# The outcome of matching

A platform that cannot be searched for ends the matching before any device is examined. After that
each device either is at fault, or is passed over, or contributes its runner, and this depends on
the device alone: a loop over the devices fails with the fault of the first device that has one, and
otherwise gives the runners of the devices that are selected.

## Main definitions

* `RunnerAtlas.Matching.Fault` — how a device makes matching fail.
* `RunnerAtlas.Matching.selects` — whether a platform selects a device.
* `RunnerAtlas.Matching.contribution` — what one device contributes.

## Main results

* `RunnerAtlas.Matching.runnersFrom_eq_error_iff`,
  `RunnerAtlas.Matching.runnersFrom_eq_ok_iff` — the outcome of the loop over the devices.
* `RunnerAtlas.Matching.runners_fault_or_selection` — the outcome of matching.
-/

namespace RunnerAtlas.Matching

open Journal Outcome

/-! ### One device -/

/-- How a device at a position makes the matching of a platform fail. -/
inductive Fault (platform : Platform.Compiled) (position : Nat) (device : Candidate) :
    MatchError → Prop where
  /-- Its runtime has no usable identifier. -/
  | identifier (h : ∀ s, ¬ device.HasIdentifier s) :
    Fault platform position device (.inventory (.of position device.label .noIdentifier))
  /-- The platform occurs in its identifier, but it has no runner. -/
  | runner {s : String} {e : RunnerError} (hs : device.HasIdentifier s)
    (hm : platform.matchesIn s = true) (he : device.RunnerFault e) :
    Fault platform position device (.runner e)

/-- Whether a platform selects a device: it occurs in a usable identifier of the runtime. -/
def selects (platform : Platform.Compiled) (device : Candidate) : Bool :=
  match device.runtimeIdentifier with
  | some (.str s) => decide (s ≠ "") && platform.matchesIn s
  | _ => false

/-- What one device contributes to the runners of a platform. -/
def contribution (platform : Platform.Compiled) (index : Nat) (device : Candidate) :
    Except MatchError (Option Runner) := do
  if ← (deviceMatches platform device index).mapError .inventory then
    let runner ← device.runner.mapError .runner
    pure (some runner)
  else pure none

/-- Whether a platform selects a device with a usable identifier is whether it occurs in it. -/
lemma selects_of_hasIdentifier (platform : Platform.Compiled) {device : Candidate} {s : String}
    (h : device.HasIdentifier s) : selects platform device = platform.matchesIn s := by
  simp [selects, h.1, h.2]

/-- A device has one fault at most. -/
lemma Fault.unique {platform : Platform.Compiled} {position : Nat} {device : Candidate}
    {e e' : MatchError} (h : Fault platform position device e)
    (h' : Fault platform position device e') : e = e' := by
  cases h with
  | identifier h =>
    cases h' with
    | identifier => rfl
    | runner hs => exact absurd hs (h _)
  | runner hs hm he =>
    cases h' with
    | identifier h => exact absurd hs (h _)
    | runner _ _ he' => rw [he.unique he']

/-- A device is at fault, is passed over, or contributes its runner.

**Proof sketch.** Without a usable identifier it is at fault. With one, the search decides whether
its runner is taken at all, so that what keeps it from having a runner counts only if the platform
occurs in the identifier. -/
lemma contribution_cases (platform : Platform.Compiled) (device : Candidate) :
    (∀ index, ∃ e, Fault platform index device e ∧
        contribution platform index device = .error e) ∨
      (∀ index e, ¬ Fault platform index device e) ∧
        ((selects platform device = false ∧
            ∀ index, contribution platform index device = .ok none) ∨
          (selects platform device = true ∧ ∃ r, device.HasRunner r ∧
            ∀ index, contribution platform index device = .ok (some r))) := by
  cases hid : device.identifier? with
  | none =>
    have hno := device.identifier?_eq_none_iff.mp hid
    refine Or.inl fun index => ⟨_, .identifier hno, ?_⟩
    simp only [contribution, deviceMatches, identifier, hid]
    rfl
  | some s =>
    have hs := (device.identifier?_eq_some_iff s).mp hid
    have hcon : ∀ index, contribution platform index device =
        if platform.matchesIn s then (device.runner.mapError .runner).map some else .ok none := by
      intro index
      simp only [contribution, deviceMatches, identifier, hid]
      show (if platform.matchesIn s = true then _ else _) = _
      split
      · cases device.runner <;> rfl
      · rfl
    cases hm : platform.matchesIn s with
    | false =>
      refine Or.inr ⟨?_, Or.inl ⟨?_, fun index => ?_⟩⟩
      · intro index e he
        cases he with
        | identifier h => exact h s hs
        | runner hs' hm' =>
          cases hs.1.symm.trans hs'.1
          rw [hm] at hm'; cases hm'
      · rw [selects_of_hasIdentifier platform hs, hm]
      · rw [hcon, hm]; rfl
    | true =>
      rcases device.runner_cases with ⟨r, hr, h⟩ | ⟨e, he, h⟩
      · refine Or.inr ⟨?_, Or.inr ⟨?_, r, hr, fun index => ?_⟩⟩
        · intro index e he
          cases he with
          | identifier h => exact h s hs
          | runner _ _ he => exact hr.not_runnerFault _ he
        · rw [selects_of_hasIdentifier platform hs, hm]
        · rw [hcon, hm, h]; rfl
      · refine Or.inl fun index => ⟨_, .runner hs hm he, ?_⟩
        rw [hcon, hm, h]; rfl

/-- A contribution fails with the fault of the device. -/
lemma contribution_eq_error_iff (platform : Platform.Compiled) (index : Nat) (device : Candidate)
    (e : MatchError) :
    contribution platform index device = .error e ↔ Fault platform index device e := by
  rcases contribution_cases platform device with h | ⟨hno, ⟨-, h⟩ | ⟨-, r, -, h⟩⟩
  · obtain ⟨e', he', h⟩ := h index
    rw [h]
    exact ⟨fun h => by cases h; exact he', fun he => by rw [he.unique he']⟩
  · rw [h]; exact ⟨fun h => (by cases h), fun he => absurd he (hno index e)⟩
  · rw [h]; exact ⟨fun h => (by cases h), fun he => absurd he (hno index e)⟩

/-- A device contributes exactly if it has no fault. -/
lemma exists_contribution_eq_ok_iff (platform : Platform.Compiled) (index : Nat)
    (device : Candidate) :
    (∃ c, contribution platform index device = .ok c) ↔
      ∀ index e, ¬ Fault platform index device e := by
  rcases contribution_cases platform device with h | ⟨hno, ⟨-, h⟩ | ⟨-, r, -, h⟩⟩
  · obtain ⟨e, he, h⟩ := h index
    rw [h]
    refine iff_of_false ?_ fun hno => hno index e he
    rintro ⟨_, h⟩; cases h
  · exact iff_of_true ⟨_, h index⟩ hno
  · exact iff_of_true ⟨_, h index⟩ hno

/-! ### All devices -/

/-- The runners from a device on are what it contributes and those of the devices after it. -/
lemma runnersFrom_cons (platform : Platform.Compiled) (index : Nat) (device : Candidate)
    (rest : List Candidate) :
    runnersFrom platform index (device :: rest) =
      contribution platform index device >>= fun c =>
        (runnersFrom platform (index + 1) rest).map (c.toList ++ ·) := by
  simp only [runnersFrom, contribution]
  rcases (deviceMatches platform device index).mapError MatchError.inventory with _ | _ | _
  · rfl
  · show runnersFrom platform (index + 1) rest = _
    cases runnersFrom platform (index + 1) rest <;> rfl
  · cases device.runner.mapError MatchError.runner with
    | error => rfl
    | ok r => cases runnersFrom platform (index + 1) rest <;> rfl

/-- The runners are the contributions of the devices with their positions. -/
lemma runnersFrom_eq_mapM (platform : Platform.Compiled) (index : Nat) (devices : List Candidate) :
    runnersFrom platform index devices =
      ((devices.zipIdx index).mapM fun d => contribution platform d.2 d.1).map
        fun cs => cs.flatMap Option.toList := by
  induction devices generalizing index with
  | nil => rfl
  | cons device rest ih =>
    rw [runnersFrom_cons, ih, List.zipIdx_cons, List.mapM_cons]
    cases contribution platform index device with
    | error => rfl
    | ok c =>
      cases (rest.zipIdx (index + 1)).mapM fun d => contribution platform d.2 d.1 <;> rfl

/-- The fault of the first device that has one decides the error of the loop over devices. -/
theorem runnersFrom_eq_error_iff (platform : Platform.Compiled) (index : Nat)
    (devices : List Candidate) (e : MatchError) :
    runnersFrom platform index devices = .error e ↔
      ∃ before device after, devices = before ++ device :: after ∧
        (∀ d ∈ before, ∀ i e, ¬ Fault platform i d e) ∧
        Fault platform (index + before.length) device e := by
  rw [runnersFrom_eq_mapM, map_eq_error_iff, mapM_eq_error_iff]
  simp only [exists_contribution_eq_ok_iff, contribution_eq_error_iff]
  constructor
  · rintro ⟨before, ⟨device, i⟩, after, h, hbefore, hd⟩
    obtain ⟨ds, rest, rfl, hb, hr⟩ := List.zipIdx_eq_append_iff.mp h
    obtain ⟨a, as, rfl, h, -⟩ := List.zipIdx_eq_cons_iff.mp hr.symm
    cases h
    refine ⟨ds, device, as, rfl, fun d hds => ?_, hd⟩
    obtain ⟨j, hj⟩ := List.mem_iff_getElem?.mp hds
    have hmem : (d, index + j) ∈ ds.zipIdx index :=
      List.mk_add_mem_zipIdx_iff_getElem?.mpr hj
    exact hbefore (d, index + j) (hb ▸ hmem)
  · rintro ⟨before, device, after, rfl, hbefore, hd⟩
    refine ⟨before.zipIdx index, (device, index + before.length),
      after.zipIdx (index + before.length + 1), ?_, ?_, hd⟩
    · rw [List.zipIdx_append, List.zipIdx_cons]
    · intro x hx
      exact hbefore x.1 (List.fst_mem_of_mem_zipIdx hx)

/-- The loop over devices succeeds exactly if no device has a fault, with the runners of the devices
that the platform selects, in order. -/
theorem runnersFrom_eq_ok_iff (platform : Platform.Compiled) (index : Nat)
    (devices : List Candidate) (rs : List Runner) :
    runnersFrom platform index devices = .ok rs ↔
      (∀ d ∈ devices, ∀ i e, ¬ Fault platform i d e) ∧
        List.Forall₂ Candidate.HasRunner (devices.filter (selects platform)) rs := by
  induction devices generalizing index rs with
  | nil => simp [runnersFrom, eq_comm]
  | cons device rest ih =>
    rw [runnersFrom_cons, bind_eq_ok_iff, List.forall_mem_cons]
    simp only [map_eq_ok_iff, ih]
    rcases contribution_cases platform device with h | ⟨hno, ⟨hsel, h⟩ | ⟨hsel, r, hr, h⟩⟩
    · obtain ⟨e, he, h⟩ := h index
      refine iff_of_false ?_ fun hno => hno.1.1 index e he
      rintro ⟨c, hc, -⟩
      rw [h] at hc; cases hc
    · rw [List.filter_cons_of_neg (by simp [hsel])]
      simp [h, hno]
    · rw [List.filter_cons_of_pos hsel, List.forall₂_cons_left_iff]
      constructor
      · rintro ⟨c, hc, others, ⟨hrest, ho⟩, rfl⟩
        rw [h] at hc; cases hc
        exact ⟨⟨hno, hrest⟩, r, others, hr, ho, rfl⟩
      · rintro ⟨⟨-, hrest⟩, r', others, hr', ho, rfl⟩
        obtain rfl := hr.unique hr'
        exact ⟨some r, h index, others, ⟨hrest, ho⟩, rfl⟩

/-! ### Matching -/

/-- The record of a matching does not change its outcome. -/
@[simp] lemma outcome_runners (platform : String) (devices : List Candidate)
    (options : MatchOptions) :
    (runners platform devices options).outcome = outcome platform devices options := by
  simp only [runners, Logged.outcome_bind, Logged.outcome_ofExcept, Logged.outcome_log,
    Logged.outcome_pure]
  cases outcome platform devices options <;> rfl

/-- A platform that cannot be searched for decides the outcome, whatever the devices are. -/
lemma outcome_of_compile_error {platform : String} {options : MatchOptions} {e : PlatformError}
    (h : Platform.compile platform options = .error e) (devices : List Candidate) :
    outcome platform devices options = .error (.platform e) := by
  simp only [outcome, h]; rfl

/-- A platform that can be searched for leaves the outcome to the devices. -/
lemma outcome_of_compile_ok {platform : String} {options : MatchOptions} {p : Platform.Compiled}
    (h : Platform.compile platform options = .ok p) (devices : List Candidate) :
    outcome platform devices options = runnersFrom p 0 devices := by
  simp only [outcome, h]; rfl

/-- **The outcome of matching.** A platform that cannot be searched for decides it alone. Otherwise
matching fails exactly if a device has a fault, with the fault of the first one that does, and
succeeds with the runners of the devices that the platform selects, in order and as often as they
are listed. A device with a usable identifier in which the platform does not occur has no fault,
whatever its other fields hold. The fault of a device without a usable identifier gives its position
and its name, if these have texts.

**Proof sketch.** The loop over the devices fails with the first fault (`runnersFrom_eq_error_iff`)
and otherwise collects the runners of the selected devices (`runnersFrom_eq_ok_iff`). Since it does
one of the two, some device is at fault exactly if it fails. -/
theorem runners_fault_or_selection (platform : String) (devices : List Candidate)
    (options : MatchOptions) :
    (∀ e, Platform.compile platform options = .error e →
        (runners platform devices options).outcome = .error (.platform e)) ∧
      ∀ p, Platform.compile platform options = .ok p →
        ((∃ e, (runners platform devices options).outcome = .error e) ↔
          ∃ device ∈ devices, ∃ i e, Fault p i device e) ∧
        (∀ e, (runners platform devices options).outcome = .error e ↔
          ∃ before device after, devices = before ++ device :: after ∧
            (∀ d ∈ before, ∀ i e, ¬ Fault p i d e) ∧ Fault p before.length device e) ∧
        (∀ rs, (runners platform devices options).outcome = .ok rs ↔
          (∀ d ∈ devices, ∀ i e, ¬ Fault p i d e) ∧
            List.Forall₂ Candidate.HasRunner (devices.filter (selects p)) rs) ∧
        (∀ device s, device.HasIdentifier s → p.matchesIn s = false →
          ∀ i e, ¬ Fault p i device e) ∧
        ∀ (i : Nat) (device : Candidate), (∀ s, ¬ device.HasIdentifier s) →
          (Value.int i).isShowable = true → device.label.isShowable = true →
          Fault p i device (.inventory (.malformed i device.label .noIdentifier)) := by
  refine ⟨fun e h => ?_, fun p h => ?_⟩
  · rw [outcome_runners, outcome_of_compile_error h]
  have hfail := runnersFrom_eq_error_iff p 0 devices
  have hok := runnersFrom_eq_ok_iff p 0 devices
  rw [outcome_runners, outcome_of_compile_ok h]
  refine ⟨⟨?_, ?_⟩, ?_, hok, ?_, ?_⟩
  · rintro ⟨e, he⟩
    obtain ⟨before, device, after, rfl, -, hd⟩ := (hfail e).mp he
    exact ⟨device, by simp, _, e, hd⟩
  · rintro ⟨device, hmem, i, e, hd⟩
    cases hr : runnersFrom p 0 devices with
    | error e => exact ⟨e, rfl⟩
    | ok rs => exact absurd hd (((hok rs).mp hr).1 device hmem i e)
  · simpa only [Nat.zero_add] using hfail
  · intro device s hs hm i e he
    cases he with
    | identifier hno => exact hno s hs
    | runner hs' hm' =>
      cases hs.1.symm.trans hs'.1
      rw [hm] at hm'; cases hm'
  · intro i device hno hposition hlabel
    rw [← InventoryError.of_eq_malformed hposition hlabel rfl]
    exact .identifier hno

/-- A device without an identifier of its own that the platform selects ends the matching, before a
device with no runtime and after one whose name is no text but which is passed over. -/
theorem runners_fault_or_selection_absent_udid :
    Platform.compile "ios" {} =
        .ok ⟨"ios", ⟨.seq (.char 105) (.seq (.char 111) (.char 115)), {}, []⟩⟩ ∧
      (runners "ios" [⟨some (.int 3), none, some (.str "tvos")⟩,
        ⟨some (.str "iPhone"), none, some (.str "com.apple.ios")⟩,
        ⟨some (.str "Ghost"), some (.str "G1"), none⟩] {}).outcome =
          .error (.runner (.absent "udid")) := by
  have hp : Platform.compile "ios" {} =
      .ok ⟨"ios", ⟨.seq (.char 105) (.seq (.char 111) (.char 115)), {}, []⟩⟩ := rfl
  obtain ⟨-, hfirst, -, hpass, -⟩ := (runners_fault_or_selection "ios"
    [⟨some (.int 3), none, some (.str "tvos")⟩,
      ⟨some (.str "iPhone"), none, some (.str "com.apple.ios")⟩,
      ⟨some (.str "Ghost"), some (.str "G1"), none⟩] {}).2 _ hp
  refine ⟨hp, (hfirst _).mpr ⟨[⟨some (.int 3), none, some (.str "tvos")⟩], _, _, rfl, ?_, ?_⟩⟩
  · intro d hd
    rw [List.mem_singleton.mp hd]
    exact hpass _ "tvos" ⟨rfl, by decide⟩ rfl
  · exact .runner (s := "com.apple.ios") ⟨rfl, by decide⟩ rfl (.noUdid rfl rfl)

/-- A device whose name is octets has a runner, which is named by the text that they spell. One
without an identifier of its runtime, whose name is too large a number, is not reported by its
position and name. -/
theorem runners_fault_or_selection_fails :
    let n : Value := .int (Int.pow 16 4000)
    (runners "ios" [⟨some (.bytes [0x69, 0x50]), some (.str "A1"), some (.str "ios")⟩] {}).outcome =
        .ok [⟨"iP", "A1"⟩] ∧
      (runners "ios" [⟨some n, none, none⟩] {}).outcome = .error (.inventory .unshowable) := by
  intro n
  have hshow : n.isShowable = false := by decide +kernel
  have herror : InventoryError.of 0 n .noIdentifier = .unshowable := by
    simp [InventoryError.of, hshow]
  have hname : (runners "ios" [⟨some n, none, none⟩] {}).outcome =
      .error (.inventory (.of 0 n .noIdentifier)) := by
    rw [outcome_runners]
    rfl
  exact ⟨by rw [outcome_runners]; rfl, by rw [hname, herror]⟩

end RunnerAtlas.Matching
