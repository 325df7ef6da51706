import Mathlib.Tactic.Lemma
import RunnerAtlas.Loading
import RunnerAtlas.Matching
import RunnerAtlas.Resolution

set_option relaxedAutoImplicit false
set_option autoImplicit false

/-!
# The records of loading, matching and resolution

A continued run reports what its parts report, in their order, and a failure ends it. What is loaded
is reported by one record, and what is matched by one record. None of them reports under the name of
the command line.

## Main definitions

* `RunnerAtlas.Journal.Record.IsOfLibrary` — a record that is not one of the command line.
* `RunnerAtlas.Journal.Logged.Reports` — a run all of whose records have a property.
* `RunnerAtlas.Journal.Logged.ReportsValue` — a run that reports its value, and no failure.

## Main results

* `RunnerAtlas.Journal.Logged.records_bind` — the records of a continued run.
* `RunnerAtlas.Loading.reportsValue_project`, `RunnerAtlas.Loading.reportsValue_devices`,
  `RunnerAtlas.Matching.reportsValue_runners` — what is loaded or matched is reported.
* `RunnerAtlas.Resolution.reports_resolve` — the resolution of a project is not reported by the
  command line.
-/

namespace RunnerAtlas

open Journal RunnerAtlas.Text

/-! ### Runs in parts -/

/-- A record of a part of the library, other than the command line. -/
def Journal.Record.IsOfLibrary (r : Record) : Prop :=
  ∃ level source message, source ≠ .commandLine ∧ r = .of level source message

/-- A record of the library does not have the name of the command line. -/
lemma Journal.Record.IsOfLibrary.source_ne {r : Record} (h : r.IsOfLibrary) :
    r.source ≠ Source.commandLine.name := by
  obtain ⟨level, source, message, hsource, rfl⟩ := h
  show source.name ≠ _
  revert hsource
  cases source <;> decide

namespace Journal.Logged

variable {ε ε' α β : Type}

/-- A continued run reports what its first part does, and then what the second part does if the
first one succeeds. -/
lemma records_bind (x : Logged ε α) (f : α → Logged ε β) :
    (x >>= f).records = x.records ++ match x.outcome with
      | .ok a => (f a).records
      | .error _ => [] := by
  show (andThen x f).records = _
  unfold andThen
  cases x.outcome with
  | ok a => exact List.filterMap_append
  | error e => exact (List.append_nil _).symm

/-- A run that continues one which succeeds. -/
lemma records_bind_of_ok {x : Logged ε α} {a : α} (h : x.outcome = .ok a) (f : α → Logged ε β) :
    (x >>= f).records = x.records ++ (f a).records := by
  rw [records_bind, h]

/-- A run that would continue one which fails. -/
lemma records_bind_of_error {x : Logged ε α} {e : ε} (h : x.outcome = .error e)
    (f : α → Logged ε β) : (x >>= f).records = x.records := by
  rw [records_bind, h, List.append_nil]

/-- A run whose value is mapped reports the same. -/
lemma records_bind_pure (x : Logged ε α) (f : α → β) :
    (x >>= fun a => pure (f a)).records = x.records := by
  rw [records_bind]
  cases x.outcome <;> exact List.append_nil _

/-- All records of a run have a property. -/
def Reports (P : Record → Prop) (x : Logged ε α) : Prop := ∀ r ∈ x.records, P r

variable {P : Record → Prop}

/-- A run without records. -/
lemma Reports.of_nil {x : Logged ε α} (h : x.records = []) : x.Reports P := by
  intro r hr
  rw [h] at hr
  cases hr

/-- A run with one record of the library. -/
lemma reports_log {level : Level} {source : Source} (message : String)
    (h : source ≠ .commandLine) :
    (log level source message : Logged ε Unit).Reports Record.IsOfLibrary := by
  intro r hr
  exact ⟨level, source, message, h, List.mem_singleton.mp hr⟩

/-- A run with its failure seen as another one. -/
lemma Reports.mapError {x : Logged ε α} (h : x.Reports P) (f : ε → ε') : (x.mapError f).Reports P :=
  h

/-- A continued run. -/
lemma Reports.bind {x : Logged ε α} {f : α → Logged ε β} (hx : x.Reports P)
    (hf : ∀ a, x.outcome = .ok a → (f a).Reports P) : (x >>= f).Reports P := by
  intro r hr
  cases h : x.outcome with
  | ok a =>
    rw [records_bind_of_ok h] at hr
    exact (List.mem_append.mp hr).elim (hx r) (hf a h r)
  | error e =>
    rw [records_bind_of_error h] at hr
    exact hx r hr

/-- A run reports its value by one record, and no failure. -/
def ReportsValue (record : α → Record) (x : Logged ε α) : Prop :=
  x.records = match x.outcome with
    | .ok a => [record a]
    | .error _ => []

namespace ReportsValue

variable {record : α → Record} {x : Logged ε α}

/-- A run that succeeds has the record of its value. -/
lemma records_of_ok (h : x.ReportsValue record) {a : α} (ha : x.outcome = .ok a) :
    x.records = [record a] := by
  rw [h, ha]

/-- A run that fails has no record. -/
lemma records_of_error (h : x.ReportsValue record) {e : ε} (he : x.outcome = .error e) :
    x.records = [] := by
  rw [h, he]

/-- A run with its failure seen as another one reports its value alike. -/
lemma mapError (h : x.ReportsValue record) (f : ε → ε') : (x.mapError f).ReportsValue record := by
  cases hx : x.outcome with
  | ok a =>
    rw [ReportsValue, outcome_mapError, hx]
    exact h.records_of_ok hx
  | error e =>
    rw [ReportsValue, outcome_mapError, hx]
    exact h.records_of_error hx

/-- A run after an outcome without records reports its value alike. -/
lemma after {y : Except ε β} {f : β → Logged ε α}
    (h : ∀ b, y = .ok b → (f b).ReportsValue record) : (ofExcept y >>= f).ReportsValue record := by
  cases y with
  | ok b => exact h b rfl
  | error e => rfl

/-- A run after warnings reports its value alike. -/
lemma after_warn {f : Unit → Logged ε α} (texts : List String) (h : (f ()).ReportsValue record) :
    (warn texts >>= f).ReportsValue record := by
  rw [ReportsValue, records_bind_of_ok (outcome_warn texts), records_warn, List.nil_append, h]
  rfl

/-- A value that is logged is reported. -/
lemma ofExcept_log (y : Except ε α) (level : Level) (source : Source) (message : α → String) :
    (ofExcept y >>= fun a => log level source (message a) >>= fun _ => pure a).ReportsValue
      fun a => .of level source (message a) :=
  .after fun _ _ => rfl

/-- A run that reports its value by records with a property. -/
lemma reports (h : x.ReportsValue record) {P : Record → Prop} (hP : ∀ a, P (record a)) :
    x.Reports P := by
  intro r hr
  rw [h] at hr
  split at hr
  · rw [List.mem_singleton.mp hr]
    exact hP _
  · cases hr

end ReportsValue

end Journal.Logged

open Journal.Logged

/-! ### Loading -/

/-- A project that is loaded is reported. -/
theorem Loading.reportsValue_project (files : Files) (path : String) :
    (project files path).ReportsValue fun p => .of .info .loading (projectMessage p) :=
  .ofExcept_log _ _ _ _

/-- Devices that are loaded are reported. -/
theorem Loading.reportsValue_devices (files : Files) (path : String) (availableOnly : Bool) :
    (devices files path availableOnly).ReportsValue fun found =>
      .of .info .loading (devicesMessage path found) :=
  .ofExcept_log _ _ _ _

/-! ### Matching and resolution -/

/-- The devices that a platform matches are reported by their number. -/
theorem Matching.reportsValue_runners (platform : String) (devices : List Candidate)
    (options : MatchOptions) :
    (runners platform devices options).ReportsValue fun found => .of .debug .matching
      s!"[MATCH] platform={Quoted.ofText platform} matched {found.length} device(s)" :=
  .after_warn _ (.ofExcept_log _ _ _ _)

/-- Matching is not reported by the command line. -/
lemma Matching.reports_runners (platform : String) (devices : List Candidate)
    (options : MatchOptions) : (runners platform devices options).Reports Record.IsOfLibrary :=
  (reportsValue_runners platform devices options).reports fun _ => ⟨_, _, _, by decide, rfl⟩

namespace Resolution

/-- What all members of a list come to is reported as for each of them. -/
lemma reports_each {ε α β : Type} {P : Record → Prop} {f : α → Logged ε β} {as : List α}
    (h : ∀ a ∈ as, (f a).Reports P) : (each f as).Reports P := by
  induction as with
  | nil => exact .of_nil rfl
  | cons a rest ih =>
    rw [List.forall_mem_cons] at h
    exact .bind h.1 fun b _ => .bind (ih h.2) fun others _ => .of_nil rfl

/-- The resolution of a target is not reported by the command line. -/
lemma reports_targetEntries (devices : List Candidate) (options : MatchOptions)
    (target : String × Target) :
    (targetEntries devices options target).Reports Record.IsOfLibrary := by
  unfold targetEntries
  split
  · exact .of_nil rfl
  split
  · exact .of_nil rfl
  · refine reports_each fun platform _ => ?_
    exact .bind (.mapError (Matching.reports_runners platform devices options) _) fun _ _ =>
      .bind (reports_log _ (by decide)) fun _ _ => .of_nil rfl

/-- The names that several entries share are not reported by the command line. -/
lemma reports_collisions {ε : Type} (entries : List Entry) :
    (report (collisions entries) : Logged ε Unit).Reports Record.IsOfLibrary := by
  intro r hr
  rw [records_report] at hr
  obtain ⟨name, -, h⟩ := List.mem_filterMap.mp hr
  dsimp only at h
  split at h
  · cases h
    exact ⟨_, _, _, by decide, rfl⟩
  · cases h

/-- The resolution of a project is not reported by the command line. -/
theorem reports_resolve (project : Project) (supply : Supply) (options : MatchOptions) :
    (resolve project supply options).1.Reports Record.IsOfLibrary := by
  refine .bind (reports_each fun t _ => reports_targetEntries _ _ t) fun groups _ => ?_
  refine .bind (reports_collisions groups.flatten) fun _ _ => ?_
  exact .bind (reports_log _ (by decide)) fun _ _ => .of_nil rfl

end Resolution

end RunnerAtlas
