import Mathlib.Tactic.Lemma
import RunnerAtlas.Device.Basic

set_option relaxedAutoImplicit false
set_option autoImplicit false

/-!
# What unchecked devices offer

The fields of a candidate hold anything or nothing. The lemmas say in terms of the fields alone
which candidates have a usable identifier of their runtime, which have a runner, and what the error
is for those that have none.

## Main definitions

* `RunnerAtlas.Value.Spells`, `RunnerAtlas.Value.textFault` — the values that stand for a text, and
  what is wrong with the others.
* `RunnerAtlas.Candidate.HasIdentifier` — the usable identifier of a candidate.
* `RunnerAtlas.Candidate.HasRunner`, `RunnerAtlas.Candidate.RunnerFault` — its runner, or what keeps
  it from having one.

## Main results

* `RunnerAtlas.Candidate.identifier?_eq_some_iff` — which identifiers are found.
* `RunnerAtlas.Candidate.runner_eq_ok_iff`, `RunnerAtlas.Candidate.runner_eq_error_iff` — the
  outcome of taking the runner of a candidate.
-/

namespace RunnerAtlas

open RunnerAtlas.Text Validation

/-! ### Values that stand for texts -/

/-- A value stands for a text: it is the text, or octets that spell it. -/
inductive Value.Spells : Value → String → Prop where
  /-- A text stands for itself. -/
  | str (s : String) : Spells (.str s) s
  /-- Octets stand for the text that they spell. -/
  | bytes {octets : List UInt8} {cs : List Char} (h : Utf8.decode? octets = some cs) :
    Spells (.bytes octets) (String.ofList cs)

/-- What is wrong with a value that stands for no text. -/
def Value.textFault : Value → Option ProblemKind
  | .str _ => none
  | .bytes octets => if (Utf8.decode? octets).isSome then none else some .unreadableText
  | _ => some .noText

/-- The check for a text finds the text that a value stands for. -/
lemma text_eq_ok_iff (v : Value) (s : String) : text v = .ok s ↔ v.Spells s := by
  constructor
  · intro h
    cases v with
    | str s' => cases h; exact .str s
    | bytes octets =>
      simp only [text, decoded] at h
      split at h
      · rename_i cs hcs
        cases h; exact .bytes hcs
      · cases h
    | _ => cases h
  · intro h
    cases h with
    | str => rfl
    | bytes h => simp only [text, decoded, h]

/-- A value stands for one text at most. -/
lemma Value.Spells.unique {v : Value} {s s' : String} (h : v.Spells s) (h' : v.Spells s') :
    s = s' := by
  have hs := (text_eq_ok_iff v s).mpr h
  rw [(text_eq_ok_iff v s').mpr h'] at hs
  cases hs; rfl

/-- The check for a text finds one problem, with the value itself. -/
lemma text_eq_error_iff (v : Value) (problems : List Problem) :
    text v = .error problems ↔ ∃ kind, v.textFault = some kind ∧ problems = [⟨[], kind⟩] := by
  cases v with
  | str s => simp [text, Value.textFault]
  | bytes octets =>
    simp only [text, decoded, Value.textFault]
    cases Utf8.decode? octets <;> simp [Checked.fail, eq_comm]
  | _ => simp [text, Value.textFault, Checked.fail, eq_comm]

/-- A value has no fault as a text exactly if it stands for one. -/
lemma Value.textFault_eq_none_iff (v : Value) : v.textFault = none ↔ ∃ s, v.Spells s := by
  cases h : text v with
  | ok s =>
    have hs := (text_eq_ok_iff v s).mp h
    refine iff_of_true ?_ ⟨s, hs⟩
    cases hs with
    | str => rfl
    | bytes hcs => simp [Value.textFault, hcs]
  | error problems =>
    obtain ⟨kind, hk, -⟩ := (text_eq_error_iff v problems).mp h
    refine iff_of_false (by simp [hk]) ?_
    rintro ⟨s, hs⟩
    rw [(text_eq_ok_iff v s).mpr hs] at h
    cases h

/-- The problems of a field whose value has to be a text. -/
def fieldProblems (field : String) (v : Value) : List Problem :=
  v.textFault.toList.map fun kind => ⟨[.field field], kind⟩

/-- A field is checked for a text with the problems that the field has. -/
lemma text_under_field (field : String) (v : Value) :
    (∃ s, v.Spells s ∧ fieldProblems field v = [] ∧
        (text v).under (.field field) = .ok s) ∨
      (v.textFault.isSome ∧ (text v).under (.field field) = .error (fieldProblems field v)) := by
  cases h : text v with
  | ok s =>
    have hs := (text_eq_ok_iff v s).mp h
    have hv := v.textFault_eq_none_iff.mpr ⟨s, hs⟩
    exact Or.inl ⟨s, hs, by simp [fieldProblems, hv], rfl⟩
  | error problems =>
    obtain ⟨kind, hk, rfl⟩ := (text_eq_error_iff v problems).mp h
    refine Or.inr ⟨by simp [hk], ?_⟩
    simp only [fieldProblems, hk]
    rfl

namespace Candidate

/-! ### The identifier of the runtime -/

/-- The identifier of a candidate's runtime is usable: it is a text with a character. -/
def HasIdentifier (c : Candidate) (s : String) : Prop :=
  c.runtimeIdentifier = some (.str s) ∧ s ≠ ""

/-- The identifier that is found is the usable one. -/
lemma identifier?_eq_some_iff (c : Candidate) (s : String) :
    c.identifier? = some s ↔ c.HasIdentifier s := by
  unfold identifier? HasIdentifier
  split
  · rename_i s' h
    rw [h]
    by_cases hs : s' = ""
    · simp only [hs, ↓reduceIte]
      constructor
      · intro h; cases h
      · rintro ⟨h, hne⟩; cases h; exact absurd rfl hne
    · simp only [hs, ↓reduceIte]
      constructor
      · intro h; cases h; exact ⟨rfl, hs⟩
      · rintro ⟨h, -⟩; cases h; rfl
  · rename_i h
    constructor
    · intro h; cases h
    · rintro ⟨hs, -⟩; exact absurd hs (h s)

/-- No identifier is found exactly if none is usable. -/
lemma identifier?_eq_none_iff (c : Candidate) :
    c.identifier? = none ↔ ∀ s, ¬ c.HasIdentifier s := by
  simp only [← identifier?_eq_some_iff, Option.eq_none_iff_forall_ne_some, ne_eq]

/-! ### The runner -/

/-- The runner of a candidate whose name and identifier stand for texts. -/
def HasRunner (c : Candidate) (r : Runner) : Prop :=
  ∃ name udid, c.name = some name ∧ name.Spells r.name ∧ c.udid = some udid ∧ udid.Spells r.udid

/-- What keeps a candidate from having a runner. -/
inductive RunnerFault (c : Candidate) : RunnerError → Prop where
  /-- It has no name. -/
  | noName (h : c.name = none) : RunnerFault c (.absent "name")
  /-- It has a name of some kind but no identifier. -/
  | noUdid {name : Value} (hn : c.name = some name) (h : c.udid = none) :
    RunnerFault c (.absent "udid")
  /-- It has both, and one of them or both stand for no text. -/
  | invalid {name udid : Value} (hn : c.name = some name) (hu : c.udid = some udid)
    (h : name.textFault.isSome ∨ udid.textFault.isSome) :
    RunnerFault c (.invalid ⟨"Runner", fieldProblems "name" name ++ fieldProblems "udid" udid⟩)

/-- The report on a runner joins the checks of its two fields. -/
private lemma ofRecord_fields (name udid : Value) :
    Runner.ofRecord [(.str "name", name), (.str "udid", udid)] =
      (Checked.ap (Checked.ap (.ok Runner.mk) ((text name).under (.field "name")))
        ((text udid).under (.field "udid"))).report "Runner" := by
  rfl

/-- Taking the runner of a candidate gives its runner or fails with what keeps it from having one.

**Proof sketch.** By the fields that are there. If both are, each stands for a text or has a
problem of its own, and the report has the problems of the name before those of the identifier. -/
lemma runner_cases (c : Candidate) :
    (∃ r, c.HasRunner r ∧ c.runner = .ok r) ∨ ∃ e, c.RunnerFault e ∧ c.runner = .error e := by
  cases hn : c.name with
  | none => exact Or.inr ⟨_, .noName hn, by simp only [runner, hn]⟩
  | some name =>
    cases hu : c.udid with
    | none => exact Or.inr ⟨_, .noUdid hn hu, by simp only [runner, hn, hu]⟩
    | some udid =>
      simp only [runner, hn, hu, ofRecord_fields]
      rcases text_under_field "name" name with ⟨n, hns, hnp, hnt⟩ | ⟨hnf, hnt⟩ <;>
        rcases text_under_field "udid" udid with ⟨u, hus, hup, hut⟩ | ⟨huf, hut⟩ <;>
        simp only [hnt, hut, Checked.ap, Checked.report]
      · exact Or.inl ⟨⟨n, u⟩, ⟨name, udid, hn, hns, hu, hus⟩, rfl⟩
      · have h := RunnerFault.invalid hn hu (Or.inr huf)
        rw [hnp, List.nil_append] at h
        exact Or.inr ⟨_, h, rfl⟩
      · have h := RunnerFault.invalid hn hu (Or.inl hnf)
        rw [hup, List.append_nil] at h
        exact Or.inr ⟨_, h, rfl⟩
      · exact Or.inr ⟨_, .invalid hn hu (Or.inl hnf), rfl⟩

/-- A candidate that has a runner has nothing that keeps it from having one. -/
lemma HasRunner.not_runnerFault {c : Candidate} {r : Runner} (h : c.HasRunner r)
    (e : RunnerError) : ¬ c.RunnerFault e := by
  obtain ⟨name, udid, hn, hns, hu, hus⟩ := h
  intro hf
  cases hf with
  | noName h => rw [hn] at h; cases h
  | noUdid _ h => rw [hu] at h; cases h
  | invalid hn' hu' h =>
    rw [hn] at hn'; rw [hu] at hu'
    cases hn'; cases hu'
    have h1 := name.textFault_eq_none_iff.mpr ⟨_, hns⟩
    have h2 := udid.textFault_eq_none_iff.mpr ⟨_, hus⟩
    simp [h1, h2] at h

/-- A candidate has one runner at most. -/
lemma HasRunner.unique {c : Candidate} {r r' : Runner} (h : c.HasRunner r) (h' : c.HasRunner r') :
    r = r' := by
  obtain ⟨name, udid, hn, hns, hu, hus⟩ := h
  obtain ⟨name', udid', hn', hns', hu', hus'⟩ := h'
  rw [hn] at hn'; rw [hu] at hu'
  cases hn'; cases hu'
  obtain ⟨n, u⟩ := r
  obtain ⟨n', u'⟩ := r'
  obtain rfl : n = n' := hns.unique hns'
  obtain rfl : u = u' := hus.unique hus'
  rfl

/-- One thing at most keeps a candidate from having a runner. -/
lemma RunnerFault.unique {c : Candidate} {e e' : RunnerError} (h : c.RunnerFault e)
    (h' : c.RunnerFault e') : e = e' := by
  cases h <;> cases h' <;> simp_all

/-- The runner that is taken is the one that the candidate has. -/
theorem runner_eq_ok_iff (c : Candidate) (r : Runner) : c.runner = .ok r ↔ c.HasRunner r := by
  rcases c.runner_cases with ⟨r', hr', h⟩ | ⟨e, he, h⟩ <;> rw [h]
  · exact ⟨fun h => by cases h; exact hr', fun hr => by rw [hr.unique hr']⟩
  · exact ⟨fun h => (by cases h), fun hr => absurd he (hr.not_runnerFault e)⟩

/-- Taking the runner fails with what keeps the candidate from having one. -/
theorem runner_eq_error_iff (c : Candidate) (e : RunnerError) :
    c.runner = .error e ↔ c.RunnerFault e := by
  rcases c.runner_cases with ⟨r, hr, h⟩ | ⟨e', he', h⟩ <;> rw [h]
  · exact ⟨fun h => (by cases h), fun he => absurd he (hr.not_runnerFault e)⟩
  · exact ⟨fun h => by cases h; exact he', fun he => by rw [he.unique he']⟩

end Candidate

end RunnerAtlas
