import Mathlib.Tactic.Push
import RunnerAtlas.Proofs.Matching
import RunnerAtlas.Resolution

set_option relaxedAutoImplicit false
set_option autoImplicit false

/-!
# The resolution of one target

The platforms of a target are looked at twice: first for one that is declared again, then, if there
is none, each is matched in turn. So a target fails for its platforms alone or for the first of them
whose matching fails, and otherwise has one entry for each.

## Main definitions

* `RunnerAtlas.Resolution.TargetFails` — how a target fails on its own.
* `RunnerAtlas.Resolution.EntryOf` — the entry of a target on a platform.

## Main results

* `RunnerAtlas.Resolution.firstRepeated_eq_some_iff` — which repeated platform is found.
* `RunnerAtlas.Resolution.targetEntries_eq_ok_iff`,
  `RunnerAtlas.Resolution.targetEntries_eq_error_iff` — the outcome for one target.
-/

namespace RunnerAtlas

open Journal Outcome

/-! ### Errors of a platform -/

/-- An error of a platform names it. -/
lemma Platform.platform_of_compile_error {platform : String} {options : MatchOptions}
    {e : PlatformError} (h : compile platform options = .error e) : e.platform = platform := by
  simp only [compile] at h
  split at h
  · cases h
  · cases h; rfl

/-- Matching fails for the platform only if it cannot be searched for. -/
lemma Matching.outcome_eq_platform_error_iff (platform : String) (devices : List Candidate)
    (options : MatchOptions) (e : PlatformError) :
    outcome platform devices options = .error (.platform e) ↔
      Platform.compile platform options = .error e := by
  cases h : Platform.compile platform options with
  | error e' => simp [outcome_of_compile_error h]
  | ok p =>
    rw [outcome_of_compile_ok h]
    refine iff_of_false (fun hr => ?_) (by simp)
    obtain ⟨_, _, _, _, _, hf⟩ := (runnersFrom_eq_error_iff p 0 devices _).mp hr
    cases hf

namespace Resolution

/-! ### Repeated platforms -/

/-- The platform that is found occurs for the second time before any other one does.

**Proof sketch.** Induction on the list, with what has been seen. A member that was seen is found
at once. One that was not is new to the seen ones, so that it goes before the new members of the
rest. -/
lemma firstRepeated_eq_some_iff (seen l : List String) (p : String) :
    firstRepeated seen l = some p ↔ ∃ before after, l = before ++ p :: after ∧ before.Nodup ∧
      (∀ q ∈ before, q ∉ seen) ∧ (p ∈ seen ∨ p ∈ before) := by
  induction l generalizing seen with
  | nil => simp [firstRepeated]
  | cons s rest ih =>
    simp only [firstRepeated, List.contains_iff_mem]
    by_cases hs : s ∈ seen
    · rw [if_pos hs]
      constructor
      · intro h; cases h
        exact ⟨[], rest, rfl, List.nodup_nil, by simp, Or.inl hs⟩
      · rintro ⟨_ | ⟨q, before⟩, after, h, -, hnew, -⟩
        · cases h; rfl
        · cases h
          exact absurd hs (hnew s (by simp))
    · rw [if_neg hs, ih]
      constructor
      · rintro ⟨before, after, rfl, hnodup, hnew, hp⟩
        refine ⟨s :: before, after, rfl, ?_, ?_, ?_⟩
        · exact List.nodup_cons.mpr ⟨fun h => hnew s h (by simp), hnodup⟩
        · refine List.forall_mem_cons.mpr ⟨hs, fun q hq hseen => ?_⟩
          exact hnew q hq (List.mem_cons_of_mem s hseen)
        · rcases hp with hp | hp
          · rcases List.mem_cons.mp hp with rfl | hp
            · exact Or.inr (by simp)
            · exact Or.inl hp
          · exact Or.inr (List.mem_cons_of_mem s hp)
      · rintro ⟨_ | ⟨q, before⟩, after, h, hnodup, hnew, hp⟩
        · cases h
          simp [hs] at hp
        · cases h
          obtain ⟨hsb, hnodup⟩ := List.nodup_cons.mp hnodup
          refine ⟨before, after, rfl, hnodup, fun q hq => ?_, ?_⟩
          · rintro (_ | ⟨_, h⟩)
            · exact hsb hq
            · exact hnew q (List.mem_cons_of_mem s hq) h
          · rcases hp with hp | hp
            · exact Or.inl (List.mem_cons_of_mem s hp)
            · rcases List.mem_cons.mp hp with rfl | hp
              · exact Or.inl (by simp)
              · exact Or.inr hp

/-- In a whole list the platform that is found is the first one to occur among those before it. -/
lemma firstRepeated_nil_eq_some_iff (l : List String) (p : String) :
    firstRepeated [] l = some p ↔
      ∃ before after, l = before ++ p :: after ∧ before.Nodup ∧ p ∈ before := by
  simp [firstRepeated_eq_some_iff]

/-- No platform is found exactly if none occurs twice. -/
lemma firstRepeated_eq_none_iff (seen l : List String) :
    firstRepeated seen l = none ↔ l.Nodup ∧ ∀ q ∈ l, q ∉ seen := by
  induction l generalizing seen with
  | nil => simp [firstRepeated]
  | cons s rest ih =>
    simp only [firstRepeated, List.contains_iff_mem]
    by_cases hs : s ∈ seen
    · simp [hs]
    · rw [if_neg hs, ih, List.nodup_cons, List.forall_mem_cons]
      constructor
      · rintro ⟨hnodup, hnew⟩
        refine ⟨⟨fun h => hnew s h (by simp), hnodup⟩, hs, fun q hq h => ?_⟩
        exact hnew q hq (List.mem_cons_of_mem s h)
      · rintro ⟨⟨hsr, hnodup⟩, -, hnew⟩
        refine ⟨hnodup, fun q hq => ?_⟩
        rintro (_ | ⟨_, h⟩)
        · exact hsr hq
        · exact hnew q hq h

/-! ### The entries of a target -/

section Target

variable (devices : List Candidate) (options : MatchOptions)

/-- The first platform of a list whose matching fails, with the error. -/
def FirstFailing (platforms : List String) (p : String) (e : MatchError) : Prop :=
  ∃ before after, platforms = before ++ p :: after ∧
    (∀ q ∈ before, ∃ rs, (Matching.runners q devices options).outcome = .ok rs) ∧
    (Matching.runners p devices options).outcome = .error e

variable {devices options} in
/-- A list with a platform whose matching fails is not empty. -/
lemma FirstFailing.ne_nil {platforms : List String} {p : String} {e : MatchError}
    (h : FirstFailing devices options platforms p e) : platforms ≠ [] := by
  obtain ⟨before, after, rfl, -⟩ := h
  simp

variable {devices options} in
/-- Where matching fails for a platform, the error names the platform that is matched. -/
lemma FirstFailing.platform_eq {platforms : List String} {p : String} {e : PlatformError}
    (h : FirstFailing devices options platforms p (.platform e)) : e.platform = p := by
  obtain ⟨before, after, -, -, he⟩ := h
  rw [Matching.outcome_runners, Matching.outcome_eq_platform_error_iff] at he
  exact Platform.platform_of_compile_error he

/-- An error that is not of a malformed platform is passed on as it is. -/
lemma blame_of_not_malformed (key : String) {e : MatchError}
    (he : ∀ q fault position, e ≠ .platform ⟨q, .malformed fault position⟩) :
    blame key e = .matching e := by
  cases e with
  | platform error =>
    obtain ⟨q, cause⟩ := error
    cases cause with
    | malformed fault position => exact absurd rfl (he q fault position)
    | _ => rfl
  | _ => rfl

/-- How a target under a key fails on its own. -/
inductive TargetFails (key : String) (target : Target) : ResolutionError → Prop where
  /-- It declares no platform. -/
  | noPlatform (h : target.platforms = []) : TargetFails key target (.target key .noPlatform)
  /-- It declares a platform again, and no other one has been declared again before. -/
  | repeatedPlatform {before after : List String} {p : String}
    (h : target.platforms = before ++ p :: after) (hnew : before.Nodup) (hp : p ∈ before) :
    TargetFails key target (.target key (.repeatedPlatform p))
  /-- The first platform whose matching fails is malformed. -/
  | invalidPlatform {p : String} {fault : Pattern.Fault} {position : Option Nat}
    (hd : target.platforms.Nodup)
    (hp : FirstFailing devices options target.platforms p
      (.platform ⟨p, .malformed fault position⟩)) :
    TargetFails key target (.target key (.invalidPlatform ⟨p, .malformed fault position⟩))
  /-- The matching of the first platform for which it fails does so for another reason. -/
  | matching {p : String} {e : MatchError} (hd : target.platforms.Nodup)
    (hp : FirstFailing devices options target.platforms p e)
    (he : ∀ q fault position, e ≠ .platform ⟨q, .malformed fault position⟩) :
    TargetFails key target (.matching e)

/-- The entry of a target under a key on a platform. -/
def EntryOf (key : String) (target : Target) (p : String) (e : Entry) : Prop :=
  (Matching.runners p devices options).outcome = .ok e.runners ∧ e.target = key ∧
    e.platform = p ∧
    e.name = if target.platforms.length = 1 then key else key ++ "_" ++ p

variable {devices options}

/-- The entry of a target on a platform is the one with the runners of the platform. -/
lemma entry_eq_ok_iff (key : String) {target : Target} (hne : target.platforms ≠ []) (p : String)
    (e : Entry) :
    (entry key target.isMultiPlatform devices options p).outcome = .ok e ↔
      EntryOf devices options key target p e := by
  have hname : entryName key p target.isMultiPlatform =
      if target.platforms.length = 1 then key else key ++ "_" ++ p := by
    have hlen := List.length_pos_iff.mpr hne
    unfold entryName Target.isMultiPlatform
    by_cases h : target.platforms.length = 1
    · simp [h]
    · rw [if_neg h, if_pos (by simp; omega)]
  simp only [entry, Logged.outcome_bind, Logged.outcome_mapError, Logged.outcome_log,
    Logged.outcome_pure, bind_eq_ok_iff, mapError_eq_ok_iff, EntryOf]
  constructor
  · rintro ⟨rs, hrs, _, -, h⟩
    cases h
    exact ⟨hrs, rfl, rfl, hname⟩
  · obtain ⟨name, t, q, rs⟩ := e
    rintro ⟨hrs, rfl, rfl, hn⟩
    exact ⟨rs, hrs, (), trivial, by rw [hname, ← hn]⟩

/-- A target has an entry on a platform exactly if matching it succeeds. -/
lemma exists_entry_eq_ok_iff (key : String) (multiPlatform : Bool) (p : String) :
    (∃ e, (entry key multiPlatform devices options p).outcome = .ok e) ↔
      ∃ rs, (Matching.runners p devices options).outcome = .ok rs := by
  simp only [entry, Logged.outcome_bind, Logged.outcome_mapError]
  cases (Matching.runners p devices options).outcome with
  | error e => refine iff_of_false ?_ ?_ <;> rintro ⟨_, h⟩ <;> cases h
  | ok rs => exact iff_of_true ⟨_, rfl⟩ ⟨rs, rfl⟩

/-- A target has no entry on a platform whose matching fails, which is blamed on it or passed on. -/
lemma entry_eq_error_iff (key : String) (multiPlatform : Bool) (p : String)
    (err : ResolutionError) :
    (entry key multiPlatform devices options p).outcome = .error err ↔
      ∃ e, (Matching.runners p devices options).outcome = .error e ∧ blame key e = err := by
  simp only [entry, Logged.outcome_bind, Logged.outcome_mapError, bind_eq_error_iff,
    mapError_eq_error_iff]
  constructor
  · -- once the runners are found, they are only recorded and named
    rintro (h | ⟨rs, -, h | ⟨_, -, h⟩⟩)
    · exact h
    · cases h
    · cases h
  · exact Or.inl

/-- The entries on platforms fail as the first platform whose matching fails is blamed. -/
lemma each_entry_eq_error_iff (key : String) (multiPlatform : Bool) (platforms : List String)
    (err : ResolutionError) :
    (platforms.mapM fun p => (entry key multiPlatform devices options p).outcome) = .error err ↔
      ∃ p e, FirstFailing devices options platforms p e ∧ blame key e = err := by
  rw [mapM_eq_error_iff]
  simp only [exists_entry_eq_ok_iff, entry_eq_error_iff]
  constructor
  · rintro ⟨before, p, after, h, hbefore, e, he, hb⟩
    exact ⟨p, e, ⟨before, after, h, hbefore, he⟩, hb⟩
  · rintro ⟨p, e, ⟨before, after, h, hbefore, he⟩, hb⟩
    exact ⟨before, p, after, h, hbefore, e, he, hb⟩

/-- A target without repeated platforms has the entries of all platforms in turn. -/
lemma targetEntries_of_nodup {t : String × Target} (hne : t.2.platforms ≠ [])
    (hd : t.2.platforms.Nodup) :
    targetEntries devices options t =
      each (entry t.1 t.2.isMultiPlatform devices options) t.2.platforms := by
  have hnone := (firstRepeated_eq_none_iff [] t.2.platforms).mpr ⟨hd, by simp⟩
  simp only [targetEntries, hnone, List.isEmpty_iff, hne, ↓reduceIte]

/-- The platforms of a target are missing, or one of them is repeated, or they are matched. -/
lemma targetEntries_cases (devices : List Candidate) (options : MatchOptions)
    (t : String × Target) :
    (t.2.platforms = [] ∧ targetEntries devices options t = .fail (.target t.1 .noPlatform)) ∨
      (∃ p, firstRepeated [] t.2.platforms = some p ∧
        targetEntries devices options t = .fail (.target t.1 (.repeatedPlatform p))) ∨
      (t.2.platforms ≠ [] ∧ t.2.platforms.Nodup) := by
  by_cases hne : t.2.platforms = []
  · exact Or.inl ⟨hne, by simp only [targetEntries, hne, List.isEmpty_nil, ↓reduceIte]⟩
  · cases hr : firstRepeated [] t.2.platforms with
    | none =>
      exact Or.inr (Or.inr ⟨hne, ((firstRepeated_eq_none_iff [] t.2.platforms).mp hr).1⟩)
    | some p =>
      refine Or.inr (Or.inl ⟨p, rfl, ?_⟩)
      simp only [targetEntries, hr, List.isEmpty_iff, hne, ↓reduceIte]

/-- A target is resolved exactly if it declares platforms, none of them twice, whose matching
succeeds, into one entry for each. -/
theorem targetEntries_eq_ok_iff (t : String × Target) (es : List Entry) :
    (targetEntries devices options t).outcome = .ok es ↔ t.2.platforms ≠ [] ∧
      t.2.platforms.Nodup ∧ List.Forall₂ (EntryOf devices options t.1 t.2) t.2.platforms es := by
  rcases targetEntries_cases devices options t with ⟨hnil, h⟩ | ⟨p, hp, h⟩ | ⟨hne, hd⟩
  · rw [h]
    refine iff_of_false (by simp) ?_
    rintro ⟨hne, -⟩; exact hne hnil
  · rw [h]
    refine iff_of_false (by simp) ?_
    rintro ⟨-, hd, -⟩
    rw [(firstRepeated_eq_none_iff [] _).mpr ⟨hd, by simp⟩] at hp
    cases hp
  · rw [targetEntries_of_nodup hne hd, outcome_each, mapM_eq_ok_iff]
    simp only [entry_eq_ok_iff t.1 hne]
    exact ⟨fun h => ⟨hne, hd, h⟩, fun h => h.2.2⟩

/-- A target that is not resolved fails on its own. -/
theorem targetEntries_eq_error_iff (t : String × Target) (err : ResolutionError) :
    (targetEntries devices options t).outcome = .error err ↔
      TargetFails devices options t.1 t.2 err := by
  rcases targetEntries_cases devices options t with ⟨hnil, h⟩ | ⟨p, hp, h⟩ | ⟨hne, hd⟩
  · rw [h, Logged.outcome_fail]
    constructor
    · intro h; cases h
      exact .noPlatform hnil
    · intro hf
      cases hf with
      | noPlatform => rfl
      | repeatedPlatform hsplit => simp [hnil] at hsplit
      | invalidPlatform _ hp => exact absurd hnil hp.ne_nil
      | matching _ hp => exact absurd hnil hp.ne_nil
  · rw [h, Logged.outcome_fail]
    have hdup : ¬ t.2.platforms.Nodup := fun hd => by
      rw [(firstRepeated_eq_none_iff [] _).mpr ⟨hd, by simp⟩] at hp
      cases hp
    constructor
    · intro h; cases h
      obtain ⟨before, after, hsplit, hnew, hmem⟩ := (firstRepeated_nil_eq_some_iff _ p).mp hp
      exact .repeatedPlatform hsplit hnew hmem
    · intro hf
      cases hf with
      | noPlatform hnil => rw [hnil] at hp; cases hp
      | repeatedPlatform hsplit hnew hmem =>
        have hp' := (firstRepeated_nil_eq_some_iff _ _).mpr ⟨_, _, hsplit, hnew, hmem⟩
        rw [hp] at hp'
        cases hp'; rfl
      | invalidPlatform hd => exact absurd hd hdup
      | matching hd => exact absurd hd hdup
  · rw [targetEntries_of_nodup hne hd, outcome_each, each_entry_eq_error_iff]
    constructor
    · rintro ⟨p, e, hp, rfl⟩
      by_cases he : ∃ q fault position, e = .platform ⟨q, .malformed fault position⟩
      · obtain ⟨q, fault, position, rfl⟩ := he
        obtain rfl : q = p := hp.platform_eq
        exact .invalidPlatform hd hp
      · push Not at he
        rw [blame_of_not_malformed t.1 he]
        exact .matching hd hp he
    · intro hf
      cases hf with
      | noPlatform hnil => exact absurd hnil hne
      | repeatedPlatform hsplit _ hmem =>
        rw [hsplit] at hd
        exact absurd rfl ((List.nodup_append.mp hd).2.2 _ hmem _ (by simp))
      | invalidPlatform _ hp => exact ⟨_, _, hp, rfl⟩
      | matching _ hp he => exact ⟨_, _, hp, blame_of_not_malformed t.1 he⟩

end Target

end Resolution

end RunnerAtlas
