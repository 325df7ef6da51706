import Mathlib.Tactic.Lemma
import RunnerAtlas.Loading
import RunnerAtlas.Matching
import RunnerAtlas.Proofs.Outcomes
import RunnerAtlas.Resolution

set_option relaxedAutoImplicit false
set_option autoImplicit false

/-!
# What is warned of

Only the matching of a platform warns, and it warns of its platform alone. So the resolution of a
project warns of nothing but platforms that its targets declare, and of all of these if it succeeds.

## Main definitions

* `RunnerAtlas.Journal.Logged.Warns` — a run that warns of something.

## Main results

* `RunnerAtlas.Journal.Logged.warns_bind` — what a continued run warns of.
* `RunnerAtlas.Matching.warns_runners` — what matching warns of.
* `RunnerAtlas.Resolution.exists_of_warns_resolve`, `RunnerAtlas.Resolution.warns_resolve_iff` —
  what the resolution of a project warns of.
* `RunnerAtlas.Platform.break_notMem_of_mem_warnings` — a warning has no break.
-/

namespace RunnerAtlas

open Journal RunnerAtlas.Outcome

/-! ### Runs in parts -/

namespace Journal.Logged

variable {ε ε' α β : Type}

/-- A run warns of something. -/
def Warns (x : Logged ε α) (text : String) : Prop := .warned text ∈ x.events

variable (text : String)

/-- Warnings are given. -/
@[simp] lemma warns_warn (texts : List String) :
    (warn texts : Logged ε Unit).Warns text ↔ text ∈ texts := by
  simp [Warns, warn]

/-- To report is not to warn. -/
@[simp] lemma not_warns_report (rs : List Record) : ¬ (report rs : Logged ε Unit).Warns text := by
  simp [Warns, report]

/-- To log is not to warn. -/
@[simp] lemma not_warns_log (level : Level) (source : Source) (message : String) :
    ¬ (log level source message : Logged ε Unit).Warns text :=
  not_warns_report text _

/-- A value comes without warnings. -/
@[simp] lemma not_warns_pure (a : α) : ¬ (pure a : Logged ε α).Warns text := List.not_mem_nil

/-- An outcome comes without warnings. -/
@[simp] lemma not_warns_ofExcept (x : Except ε α) : ¬ (ofExcept x).Warns text := List.not_mem_nil

/-- A failure comes without warnings. -/
@[simp] lemma not_warns_fail (e : ε) : ¬ (fail e : Logged ε α).Warns text := List.not_mem_nil

/-- A run with its failure seen as another one warns of the same. -/
@[simp] lemma warns_mapError (f : ε → ε') (x : Logged ε α) :
    (x.mapError f).Warns text ↔ x.Warns text := Iff.rfl

/-- A continued run warns of what its first part does, and of what the second part does if the first
one succeeds. -/
lemma warns_bind (x : Logged ε α) (f : α → Logged ε β) :
    (x >>= f).Warns text ↔ x.Warns text ∨ ∃ a, x.outcome = .ok a ∧ (f a).Warns text := by
  show Event.warned text ∈ (andThen x f).events ↔ _
  unfold andThen Warns
  cases x.outcome <;> simp

end Journal.Logged

open Journal.Logged

/-! ### Platforms -/

/-- A warning of a text has no break. -/
lemma Pattern.Warning.break_notMem_text (w : Pattern.Warning) : '\n' ∉ w.text.toList := by
  have hwords : '\n' ∉ w.resemblance.words.toList := by
    cases w.resemblance <;> decide
  have hdigits : '\n' ∉ (Nat.toDigits 10 w.position) := by
    intro h
    exact absurd (Nat.isDigit_of_mem_toDigits (by decide) (by decide) h) (by decide)
  show '\n' ∉ ("Possible " ++ w.resemblance.words ++ " at position " ++
    String.ofList (Nat.toDigits 10 w.position)).toList
  simp only [String.toList_append, String.toList_ofList, List.mem_append, hwords, hdigits]
  decide

/-- A warning of a platform has no break. -/
lemma Platform.break_notMem_of_mem_warnings {platform text : String} {options : MatchOptions}
    (h : text ∈ warnings platform options) : '\n' ∉ text.toList := by
  obtain ⟨w, -, rfl⟩ := List.mem_map.mp h
  exact w.break_notMem_text

/-! ### Matching and resolution -/

/-- Matching warns of its platform. -/
theorem Matching.warns_runners (platform : String) (devices : List Candidate)
    (options : MatchOptions) (text : String) :
    (runners platform devices options).Warns text ↔ text ∈ Platform.warnings platform options := by
  simp [runners, warns_bind]

namespace Resolution

variable {devices : List Candidate} {options : MatchOptions} {text : String}

/-- An entry warns of its platform. -/
lemma warns_entry (key : String) (multiPlatform : Bool) (platform : String) :
    (entry key multiPlatform devices options platform).Warns text ↔
      text ∈ Platform.warnings platform options := by
  simp [entry, warns_bind, Matching.warns_runners]

section Each

variable {ε α β : Type} {f : α → Logged ε β} {as : List α}

/-- What all members of a list come to warns of what one of them does. -/
lemma exists_of_warns_each (h : (each f as).Warns text) : ∃ a ∈ as, (f a).Warns text := by
  induction as with
  | nil => exact absurd h (not_warns_pure _ _)
  | cons a rest ih =>
    simp only [each, warns_bind, not_warns_pure, and_false, exists_false, or_false] at h
    rcases h with h | ⟨_, -, h⟩
    · exact ⟨a, List.mem_cons_self, h⟩
    · obtain ⟨a', ha', h⟩ := ih h
      exact ⟨a', List.mem_cons_of_mem _ ha', h⟩

/-- If all members succeed, what one of them warns of is warned of. -/
lemma warns_each_of_mem {bs : List β} (h : (each f as).outcome = .ok bs) {a : α} (ha : a ∈ as)
    (hwarns : (f a).Warns text) : (each f as).Warns text := by
  induction as generalizing bs with
  | nil => cases ha
  | cons first rest ih =>
    simp only [each, outcome_bind, outcome_pure, bind_eq_ok_iff] at h
    obtain ⟨b, hb, others, hothers, -⟩ := h
    simp only [each, warns_bind, not_warns_pure, and_false, exists_false, or_false]
    rcases List.mem_cons.mp ha with rfl | ha
    · exact .inl hwarns
    · exact .inr ⟨b, hb, ih hothers ha⟩

end Each

/-- A target warns of platforms that it declares. -/
lemma exists_of_warns_targetEntries {t : String × Target}
    (h : (targetEntries devices options t).Warns text) :
    ∃ p ∈ t.2.platforms, text ∈ Platform.warnings p options := by
  unfold targetEntries at h
  split at h
  · exact absurd h (not_warns_fail _ _)
  split at h
  · exact absurd h (not_warns_fail _ _)
  · obtain ⟨p, hp, h⟩ := exists_of_warns_each h
    exact ⟨p, hp, (warns_entry _ _ p).mp h⟩

/-- A target that succeeds warns of all platforms that it declares. -/
lemma warns_targetEntries {t : String × Target} {es : List Entry}
    (h : (targetEntries devices options t).outcome = .ok es) {p : String}
    (hp : p ∈ t.2.platforms) (htext : text ∈ Platform.warnings p options) :
    (targetEntries devices options t).Warns text := by
  unfold targetEntries at h ⊢
  split at h
  · cases h
  rename_i hnone
  rw [if_neg hnone]
  split at h
  · cases h
  · exact warns_each_of_mem h hp ((warns_entry _ _ p).mpr htext)

variable {project : Project} {supply : Supply}

/-- The resolution of a project warns of platforms that its targets declare. -/
theorem exists_of_warns_resolve (h : (resolve project supply options).1.Warns text) :
    ∃ t ∈ project.targets.toList, ∃ p ∈ t.2.platforms, text ∈ Platform.warnings p options := by
  simp only [resolve, entries, warns_bind, not_warns_report, not_warns_log, not_warns_pure,
    and_false, exists_false, or_false] at h
  obtain ⟨t, ht, h⟩ := exists_of_warns_each h
  obtain ⟨p, hp, h⟩ := exists_of_warns_targetEntries h
  exact ⟨t, ht, p, hp, h⟩

/-- A resolution that succeeds warns of all platforms that the targets declare. -/
theorem warns_resolve_iff {es : List Entry}
    (h : (resolve project supply options).1.outcome = .ok es) :
    (resolve project supply options).1.Warns text ↔
      ∃ t ∈ project.targets.toList, ∃ p ∈ t.2.platforms, text ∈ Platform.warnings p options := by
  refine ⟨exists_of_warns_resolve, ?_⟩
  rintro ⟨t, ht, p, hp, htext⟩
  simp only [resolve, entries, outcome_bind, bind_eq_ok_iff] at h
  obtain ⟨groups, hgroups, -⟩ := h
  refine (warns_bind _ _ _).mpr (.inl (warns_each_of_mem hgroups ht ?_))
  obtain ⟨es, hes⟩ := (exists_mapM_eq_ok_iff _ _).mp ⟨groups, (outcome_each _ _).symm.trans hgroups⟩
    t ht
  exact warns_targetEntries hes hp htext

end Resolution

end RunnerAtlas
