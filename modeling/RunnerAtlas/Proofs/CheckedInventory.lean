import RunnerAtlas.Proofs.Checks
import RunnerAtlas.Proofs.Resolution.Failure

set_option relaxedAutoImplicit false
set_option autoImplicit false

/-!
# Matching and resolving over checked devices

A complete device has a usable identifier of its runtime and a runner, so it is never at fault. Over
complete devices matching succeeds for every platform that can be searched for, and a resolution
fails for its targets alone, unless a platform is refused for another reason than its form.

## Main definitions

* `RunnerAtlas.Platform.RefusedOnlyAsMalformed` — a platform with no other error than its form.

## Main results

* `RunnerAtlas.Matching.outcome_candidates` — the runners of complete devices.
* `RunnerAtlas.Resolution.exists_resolve_eq_ok_iff` — when a project is resolved against them.
* `RunnerAtlas.Resolution.resolve_error_of_complete` — how the resolution fails otherwise.
-/

namespace RunnerAtlas

open Journal Outcome

/-- A platform, if it is refused at all, is refused as malformed. -/
def Platform.RefusedOnlyAsMalformed (platform : String) (options : MatchOptions) : Prop :=
  ∀ e, compile platform options = .error e → e.isMalformed = true

/-- An error is of a malformed platform exactly if it has a fault of form. -/
lemma PlatformError.isMalformed_iff (e : PlatformError) :
    e.isMalformed = true ↔ ∃ fault position, e.cause = .malformed fault position := by
  unfold isMalformed
  cases e.cause <;> simp

/-! ### Complete devices -/

namespace Device

/-- A complete device has a usable identifier of its runtime. -/
lemma IsComplete.hasIdentifier {d : Device} (h : d.IsComplete) :
    d.candidate.HasIdentifier d.runtimeIdentifier :=
  ⟨rfl, h.2.2⟩

/-- A device has its runner. -/
lemma hasRunner (d : Device) : d.candidate.HasRunner d.runner :=
  ⟨_, _, rfl, .str _, rfl, .str _⟩

/-- A complete device is never at fault. -/
lemma IsComplete.not_fault {d : Device} (h : d.IsComplete) (p : Platform.Compiled) (i : Nat)
    (e : MatchError) : ¬ Matching.Fault p i d.candidate e := by
  intro hf
  cases hf with
  | identifier hno => exact hno _ h.hasIdentifier
  | runner _ _ he => exact d.hasRunner.not_runnerFault _ he

end Device

/-! ### Matching -/

namespace Matching

variable {devices : List Device}

/-- The loop over complete devices finds the runners of those in whose identifier the platform
occurs, in order. -/
theorem runnersFrom_candidates (h : ∀ d ∈ devices, d.IsComplete) (p : Platform.Compiled)
    (index : Nat) :
    runnersFrom p index (devices.map Device.candidate) =
      .ok ((devices.filter fun d => p.matchesIn d.runtimeIdentifier).map Device.runner) := by
  rw [runnersFrom_eq_ok_iff]
  constructor
  · intro c hc i e
    obtain ⟨d, hd, rfl⟩ := List.mem_map.mp hc
    exact (h d hd).not_fault p i e
  · have hsel : ∀ d ∈ devices,
        (selects p ∘ Device.candidate) d = p.matchesIn d.runtimeIdentifier :=
      fun d hd => selects_of_hasIdentifier p (h d hd).hasIdentifier
    rw [List.filter_map, List.filter_congr hsel, List.forall₂_map_left_iff,
      List.forall₂_map_right_iff]
    exact List.forall₂_same.mpr fun d _ => d.hasRunner

/-- **Matching over complete devices.** Only a platform that cannot be searched for makes it
fail. -/
theorem outcome_candidates (h : ∀ d ∈ devices, d.IsComplete) (platform : String)
    (options : MatchOptions) :
    (runners platform (devices.map Device.candidate) options).outcome =
      match Platform.compile platform options with
      | .ok p =>
        .ok ((devices.filter fun d => p.matchesIn d.runtimeIdentifier).map Device.runner)
      | .error e => .error (.platform e) := by
  rw [outcome_runners]
  cases hp : Platform.compile platform options with
  | error e => exact outcome_of_compile_error hp _
  | ok p => rw [outcome_of_compile_ok hp, runnersFrom_candidates h]

/-- Over complete devices a platform has runners exactly if it can be searched for. -/
lemma exists_outcome_candidates_eq_ok_iff (h : ∀ d ∈ devices, d.IsComplete) (platform : String)
    (options : MatchOptions) :
    (∃ rs, (runners platform (devices.map Device.candidate) options).outcome = .ok rs) ↔
      ∃ p, Platform.compile platform options = .ok p := by
  rw [outcome_candidates h]
  cases Platform.compile platform options <;> simp

/-- Over complete devices matching fails exactly with the error of the platform. -/
lemma outcome_candidates_eq_error_iff (h : ∀ d ∈ devices, d.IsComplete) (platform : String)
    (options : MatchOptions) (e : MatchError) :
    (runners platform (devices.map Device.candidate) options).outcome = .error e ↔
      ∃ pe, Platform.compile platform options = .error pe ∧ e = .platform pe := by
  rw [outcome_candidates h]
  cases Platform.compile platform options <;> simp [eq_comm]

end Matching

/-! ### Resolution -/

namespace Resolution

variable {devices : List Device} {supply : Supply}

/-- Against complete devices a project is resolved exactly if each of its targets declares
platforms, none of them twice, that can be searched for.

**Proof sketch.** A resolution has an entry for each declared platform whose matching succeeds
(`resolve_eq_ok_iff`), and over complete devices that is each one that can be searched for. In the
other direction, a resolution that fails has a target that fails on its own. -/
theorem exists_resolve_eq_ok_iff (h : ∀ d ∈ devices, d.IsComplete)
    (hs : supply.devices = devices.map Device.candidate) (project : Project)
    (options : MatchOptions) :
    (∃ es, (resolve project supply options).1.outcome = .ok es) ↔
      ∀ t ∈ project.targets.toList, t.2.platforms ≠ [] ∧ t.2.platforms.Nodup ∧
        ∀ p ∈ t.2.platforms, ∃ compiled, Platform.compile p options = .ok compiled := by
  constructor
  · rintro ⟨es, hes⟩ t ht
    obtain ⟨groups, -, hg⟩ := (resolve_eq_ok_iff project supply options es).mp hes
    obtain ⟨g, -, hne, hd, hentries⟩ := exists_of_forall₂_of_mem hg.flip ht
    refine ⟨hne, hd, fun p hp => ?_⟩
    obtain ⟨e, -, hrunners, -⟩ := exists_of_forall₂_of_mem hentries.flip hp
    rw [hs] at hrunners
    exact (Matching.exists_outcome_candidates_eq_ok_iff h p options).mp ⟨_, hrunners⟩
  · intro hall
    cases hr : (resolve project supply options).1.outcome with
    | ok es => exact ⟨es, rfl⟩
    | error err =>
      obtain ⟨before, t, after, hsplit, -, hfails⟩ :=
        (resolve_eq_error_iff project supply options err).mp hr
      obtain ⟨hne, hd, hcompiled⟩ := hall t (by simp [hsplit])
      have hmatched : ∀ p e, ¬ FirstFailing supply.devices options t.2.platforms p e := by
        rintro p e ⟨pre, post, hp, -, he⟩
        rw [hs, Matching.outcome_candidates_eq_error_iff h] at he
        obtain ⟨pe, hpe, -⟩ := he
        obtain ⟨compiled, hok⟩ := hcompiled p (by simp [hp])
        rw [hok] at hpe; cases hpe
      exfalso
      cases hfails with
      | noPlatform hnil => exact hne hnil
      | repeatedPlatform hp _ hmem =>
        rw [hp] at hd
        exact (List.nodup_append.mp hd).2.2 _ hmem _ (by simp) rfl
      | invalidPlatform _ hp => exact hmatched _ _ hp
      | matching _ hp => exact hmatched _ _ hp

/-- Against complete devices a resolution fails for one of its targets, which the error names with
one of its platforms unless it has none, or for a platform that is refused for another reason than
its form, whose error it fails with. -/
theorem resolve_error_of_complete (h : ∀ d ∈ devices, d.IsComplete)
    (hs : supply.devices = devices.map Device.candidate) {project : Project}
    {options : MatchOptions} {err : ResolutionError}
    (herr : (resolve project supply options).1.outcome = .error err) :
    ∃ t ∈ project.targets.toList,
      (∃ fault, err = .target t.1 fault ∧
        (t.2.platforms = [] ∧ fault.platform? = none ∨
          ∃ p ∈ t.2.platforms, fault.platform? = some p)) ∨
      ∃ p ∈ t.2.platforms, ∃ e, Platform.compile p options = .error e ∧ e.isMalformed = false ∧
        err = .matching (.platform e) := by
  obtain ⟨before, t, after, hsplit, -, hfails⟩ :=
    (resolve_eq_error_iff project supply options err).mp herr
  have ht : t ∈ project.targets.toList := by simp [hsplit]
  refine ⟨t, ht, ?_⟩
  cases hfails with
  | noPlatform hnil => exact .inl ⟨_, rfl, .inl ⟨hnil, rfl⟩⟩
  | @repeatedPlatform pre post p hsplit => exact .inl ⟨_, rfl, .inr ⟨p, by simp [hsplit], rfl⟩⟩
  | @invalidPlatform p _ _ _ hfirst =>
    obtain ⟨pre, post, hsplit, -⟩ := hfirst
    exact .inl ⟨_, rfl, .inr ⟨p, by simp [hsplit], rfl⟩⟩
  | @matching p e _ hfirst hother =>
    obtain ⟨pre, post, hsplit, -, he⟩ := hfirst
    rw [hs, Matching.outcome_candidates_eq_error_iff h] at he
    obtain ⟨⟨q, cause⟩, hpe, rfl⟩ := he
    refine .inr ⟨p, by simp [hsplit], _, hpe, ?_, rfl⟩
    rw [Bool.eq_false_iff, ne_eq, PlatformError.isMalformed_iff]
    rintro ⟨fault, position, rfl⟩
    exact hother q fault position rfl

end Resolution

end RunnerAtlas
