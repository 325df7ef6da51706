import RunnerAtlas.Proofs.Resolution.Entries

set_option relaxedAutoImplicit false
set_option autoImplicit false

/-!
# How a resolution fails

Targets are resolved one after the other, so the first target that fails on its own decides the
error of the project, whatever is declared after it.

## Main results

* `RunnerAtlas.Resolution.resolve_eq_error_iff` — which error a project is refused with.
* `RunnerAtlas.Resolution.resolve_first_failing_target` — when a project is refused at all.
-/

namespace RunnerAtlas.Resolution

open Journal Outcome

/-- A target is resolved exactly if it does not fail on its own. -/
lemma exists_targetEntries_eq_ok_iff (devices : List Candidate) (options : MatchOptions)
    (t : String × Target) :
    (∃ es, (targetEntries devices options t).outcome = .ok es) ↔
      ∀ err, ¬ TargetFails devices options t.1 t.2 err := by
  simp only [← targetEntries_eq_error_iff]
  cases (targetEntries devices options t).outcome <;> simp

/-- The first target that fails on its own decides the error of a project. -/
theorem resolve_eq_error_iff (project : Project) (supply : Supply) (options : MatchOptions)
    (err : ResolutionError) :
    (resolve project supply options).1.outcome = .error err ↔
      ∃ before t after, project.targets.toList = before ++ t :: after ∧
        (∀ s ∈ before, ∀ e, ¬ TargetFails supply.devices options s.1 s.2 e) ∧
        TargetFails supply.devices options t.1 t.2 err := by
  simp only [resolve, outcome_entries, map_eq_error_iff, mapM_eq_error_iff,
    exists_targetEntries_eq_ok_iff, targetEntries_eq_error_iff]

/-- No platform is matched against a device without a usable identifier of its runtime. -/
lemma runners_ne_ok_of_unusable {devices : List Candidate} {device : Candidate}
    (hmem : device ∈ devices) (hno : ∀ s, ¬ device.HasIdentifier s) (options : MatchOptions)
    (p : String) (rs : List Runner) :
    (Matching.runners p devices options).outcome ≠ .ok rs := by
  intro h
  rw [Matching.outcome_runners] at h
  cases hp : Platform.compile p options with
  | error e => rw [Matching.outcome_of_compile_error hp] at h; cases h
  | ok compiled =>
    rw [Matching.outcome_of_compile_ok hp] at h
    have hsound := ((Matching.runnersFrom_eq_ok_iff compiled 0 devices rs).mp h).1
    exact hsound device hmem 0 _ (.identifier hno)

/-- **How a resolution fails.** A project is refused exactly if one of its targets fails on its own,
and the error is that of the first target that does. If there is a target at all and a device
without a usable identifier of its runtime, it is never resolved.

**Proof sketch.** The loop over the targets fails with the error of the first one that fails
(`resolve_eq_error_iff`). A target that does not fail has a platform, whose matching looks at every
device (`runners_ne_ok_of_unusable`). -/
theorem resolve_first_failing_target (project : Project) (supply : Supply)
    (options : MatchOptions) :
    ((∃ err, (resolve project supply options).1.outcome = .error err) ↔
        ∃ t ∈ project.targets.toList, ∃ err, TargetFails supply.devices options t.1 t.2 err) ∧
      (∀ err, (resolve project supply options).1.outcome = .error err ↔
        ∃ before t after, project.targets.toList = before ++ t :: after ∧
          (∀ s ∈ before, ∀ e, ¬ TargetFails supply.devices options s.1 s.2 e) ∧
          TargetFails supply.devices options t.1 t.2 err) ∧
      (project.targets.toList ≠ [] → (∃ device ∈ supply.devices, ∀ s, ¬ device.HasIdentifier s) →
        ∀ es, (resolve project supply options).1.outcome ≠ .ok es) := by
  have hfail := resolve_eq_error_iff project supply options
  refine ⟨⟨?_, ?_⟩, hfail, ?_⟩
  · rintro ⟨err, h⟩
    obtain ⟨before, t, after, hsplit, -, ht⟩ := (hfail err).mp h
    exact ⟨t, by simp [hsplit], err, ht⟩
  · rintro ⟨t, hmem, err, ht⟩
    cases h : (resolve project supply options).1.outcome with
    | error e => exact ⟨e, rfl⟩
    | ok es =>
      obtain ⟨groups, -, hg⟩ := (resolve_eq_ok_iff project supply options es).mp h
      obtain ⟨g, -, hok⟩ := exists_of_forall₂_of_mem hg.flip hmem
      have hno := (exists_targetEntries_eq_ok_iff supply.devices options t).mp
        ⟨g, (targetEntries_eq_ok_iff t g).mpr hok⟩
      exact absurd ht (hno err)
  · rintro hne ⟨device, hmem, hno⟩ es h
    obtain ⟨groups, -, hg⟩ := (resolve_eq_ok_iff project supply options es).mp h
    obtain ⟨t, ht⟩ := List.exists_mem_of_ne_nil _ hne
    obtain ⟨g, -, hplatforms, -, hentries⟩ := exists_of_forall₂_of_mem hg.flip ht
    obtain ⟨p, hp⟩ := List.exists_mem_of_ne_nil _ hplatforms
    obtain ⟨e, -, hrunners, -⟩ := exists_of_forall₂_of_mem hentries.flip hp
    exact runners_ne_ok_of_unusable hmem hno options p e.runners hrunners

/-- A platform declared again decides before the target without platforms that is declared later,
and a device without an identifier keeps even the first target from being resolved. -/
theorem resolve_first_failing_target_repeated :
    (resolve ⟨none, { toList := [("App", ⟨"App", ["ios"]⟩), ("Kit", ⟨"Kit", ["tv", "ios", "tv"]⟩),
        ("Core", ⟨"Core", []⟩)] }⟩ (.list []) {}).1.outcome =
        .error (.target "Kit" (.repeatedPlatform "tv")) ∧
      ∀ es, (resolve ⟨none, { toList := [("App", ⟨"App", ["ios"]⟩)] }⟩
        (.list [⟨some (.str "Ghost"), some (.str "G"), some (.str "")⟩]) {}).1.outcome ≠
          .ok es := by
  constructor
  · refine ((resolve_first_failing_target _ _ _).2.1 _).mpr
      ⟨[("App", ⟨"App", ["ios"]⟩)], _, _, rfl, ?_, ?_⟩
    · rw [List.forall_mem_singleton, ← exists_targetEntries_eq_ok_iff]
      exact ⟨[⟨"App", "App", "ios", []⟩], eq_ok_of_toOption (by decide +kernel)⟩
    · exact .repeatedPlatform (show ["tv", "ios", "tv"] = ["tv", "ios"] ++ ["tv"] from rfl)
        (by simp) (by simp)
  · refine (resolve_first_failing_target _ _ _).2.2 (by simp) ⟨_, List.mem_singleton_self _, ?_⟩
    rintro s ⟨h, hs⟩
    cases h
    exact hs rfl

end RunnerAtlas.Resolution
