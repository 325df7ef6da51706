import RunnerAtlas.Proofs.Resolution.Collisions
import RunnerAtlas.Proofs.Resolution.Failure

set_option relaxedAutoImplicit false
set_option autoImplicit false

/-!
# What a resolution reports

Each entry is reported by two details: what its platform matches, and under which label that is
listed. A resolution that succeeds adds a warning for each label that is shared, and sums itself up.
One that fails stops where it fails: it has reported the entries of the pairs of target and platform
before, and nothing else. The platforms of a target are gone through before the first of them is
matched, so that a target with no platform, or with one that is declared again, reports nothing.

## Main definitions

* `RunnerAtlas.Entry.details` — the two records of an entry.
* `RunnerAtlas.Resolution.declared` — targets with each of their platforms.
* `RunnerAtlas.Resolution.MatchedBefore` — the platforms that are matched before a target fails.

## Main results

* `RunnerAtlas.Resolution.records_each_append` — what the members of a list report that succeed.
* `RunnerAtlas.Resolution.records_targetEntries_of_ok`,
  `RunnerAtlas.Resolution.exists_records_targetEntries_of_error` — what one target reports.
* `RunnerAtlas.Resolution.resolve_records` — what a resolution reports.
-/

namespace RunnerAtlas

open Journal Journal.Logged Outcome RunnerAtlas.Text

/-- The records of an entry: what its platform matches, and what is listed under its label. -/
def Entry.details (e : Entry) : List Record :=
  [.of .debug .matching ("[MATCH] platform=" ++ Quoted.ofText e.platform ++ " matched " ++
      toString e.runners.length ++ " device(s)"),
    .of .debug .resolution ("[RESOLVE] " ++ e.name ++ " -> " ++ toString e.runners.length ++
      " runner(s)")]

namespace Resolution

/-! ### Members of a list, one after the other -/

section Each

variable {ε α β : Type} {f : α → Logged ε β}

/-- A list without members reports nothing. -/
@[simp] lemma records_each_nil : (each f []).records = [] := rfl

/-- A member that succeeds is reported before the rest of the list. -/
lemma records_each_cons_of_ok {a : α} {b : β} (h : (f a).outcome = .ok b) (rest : List α) :
    (each f (a :: rest)).records = (f a).records ++ (each f rest).records := by
  rw [each, records_bind_of_ok h, records_bind_pure]

/-- A member that fails keeps the rest of the list from being reported. -/
lemma records_each_cons_of_error {a : α} {e : ε} (h : (f a).outcome = .error e) (rest : List α) :
    (each f (a :: rest)).records = (f a).records := by
  rw [each, records_bind_of_error h]

/-- Members that succeed are reported by their values, before the rest of the list. -/
theorem records_each_append {details : β → List Record}
    (hf : ∀ a b, (f a).outcome = .ok b → (f a).records = details b) {as : List α} {bs : List β}
    (h : List.Forall₂ (fun a b => (f a).outcome = .ok b) as bs) (rest : List α) :
    (each f (as ++ rest)).records = bs.flatMap details ++ (each f rest).records := by
  induction h with
  | nil => rfl
  | cons hab _ ih =>
    rw [List.cons_append, records_each_cons_of_ok hab, hf _ _ hab, ih, List.flatMap_cons,
      List.append_assoc]

end Each

/-! ### One entry -/

section Target

variable {devices : List Candidate} {options : MatchOptions}

/-- An entry is reported by its details. -/
lemma records_entry_of_ok {key p : String} {multiPlatform : Bool} {e : Entry}
    (h : (entry key multiPlatform devices options p).outcome = .ok e) :
    (entry key multiPlatform devices options p).records = e.details := by
  simp only [entry, outcome_bind, outcome_log, outcome_pure, bind_eq_ok_iff] at h
  obtain ⟨rs, hrs, _, -, he⟩ := h
  cases he
  rw [entry, records_bind_of_ok hrs,
    ((Matching.reportsValue_runners p devices options).mapError _).records_of_ok hrs]
  rfl

/-- A platform whose matching fails is not reported. -/
lemma records_entry_of_error {key p : String} {multiPlatform : Bool} {err : ResolutionError}
    (h : (entry key multiPlatform devices options p).outcome = .error err) :
    (entry key multiPlatform devices options p).records = [] := by
  obtain ⟨e, he, hblame⟩ := (entry_eq_error_iff key multiPlatform p err).mp h
  have hmatching : ((Matching.runners p devices options).mapError (blame key)).outcome =
      .error err := by
    rw [outcome_mapError, he, ← hblame]
    rfl
  rw [entry, records_bind_of_error hmatching,
    ((Matching.reportsValue_runners p devices options).mapError _).records_of_error hmatching]

/-! ### One target -/

variable (devices options) in
/-- The platforms of a target that are matched before the one for which that fails. -/
inductive MatchedBefore (target : Target) : List String → Prop where
  /-- A target with no platform, or with one that is declared again, fails before any matching. -/
  | unmatched (h : target.platforms = [] ∨ ¬ target.platforms.Nodup) : MatchedBefore target []
  /-- All platforms before the first one for which matching fails are matched. -/
  | failing {done rest : List String} {p : String} {e : MatchError}
    (hd : target.platforms.Nodup) (h : target.platforms = done ++ p :: rest)
    (hdone : ∀ q ∈ done, ∃ rs, (Matching.runners q devices options).outcome = .ok rs)
    (hp : (Matching.runners p devices options).outcome = .error e) : MatchedBefore target done

/-- A target that is resolved reports the details of its entries. -/
theorem records_targetEntries_of_ok {t : String × Target} {es : List Entry}
    (h : (targetEntries devices options t).outcome = .ok es) :
    (targetEntries devices options t).records = es.flatMap Entry.details := by
  obtain ⟨hne, hd, hes⟩ := (targetEntries_eq_ok_iff t es).mp h
  have hentries := hes.imp fun p e => (entry_eq_ok_iff t.1 hne p e).mpr
  have heach := records_each_append (fun p e he => records_entry_of_ok he) hentries []
  rw [targetEntries_of_nodup hne hd]
  simpa using heach

/-- A target that fails reports the details of the entries on the platforms before.

**Proof sketch.** A target that fails for its platforms alone reports nothing. Otherwise the loop
over its platforms stops at the first one whose matching fails, which is not reported itself. -/
theorem exists_records_targetEntries_of_error {t : String × Target} {err : ResolutionError}
    (h : (targetEntries devices options t).outcome = .error err) :
    ∃ done es, MatchedBefore devices options t.2 done ∧
      List.Forall₂ (EntryOf devices options t.1 t.2) done es ∧
      (targetEntries devices options t).records = es.flatMap Entry.details := by
  rcases targetEntries_cases devices options t with ⟨hnil, ht⟩ | ⟨p, hp, ht⟩ | ⟨hne, hd⟩
  · exact ⟨[], [], .unmatched (Or.inl hnil), .nil, by rw [ht]; rfl⟩
  · refine ⟨[], [], .unmatched (Or.inr fun hd => ?_), .nil, by rw [ht]; rfl⟩
    rw [(firstRepeated_eq_none_iff [] _).mpr ⟨hd, by simp⟩] at hp
    cases hp
  · rw [targetEntries_of_nodup hne hd] at h ⊢
    rw [outcome_each, each_entry_eq_error_iff] at h
    obtain ⟨p, e, ⟨done, rest, hsplit, hdone, hp⟩, hblame⟩ := h
    obtain ⟨es, hes⟩ := (exists_mapM_eq_ok_iff _ done).mpr fun q hq =>
      (exists_entry_eq_ok_iff t.1 t.2.isMultiPlatform q).mpr (hdone q hq)
    rw [mapM_eq_ok_iff] at hes
    refine ⟨done, es, .failing hd hsplit hdone hp, hes.imp ?_, ?_⟩
    · intro q e' he'
      exact (entry_eq_ok_iff t.1 hne q e').mp he'
    · have herror : (entry t.1 t.2.isMultiPlatform devices options p).outcome = .error err :=
        (entry_eq_error_iff _ _ _ _).mpr ⟨e, hp, hblame⟩
      rw [hsplit, records_each_append (fun q e' he' => records_entry_of_ok he') hes,
        records_each_cons_of_error herror, records_entry_of_error herror, List.append_nil]

end Target

/-! ### All targets -/

/-- Targets with each of their platforms, in the order in which they are resolved. -/
def declared (ts : List (String × Target)) : List ((String × Target) × String) :=
  ts.flatMap fun t => t.2.platforms.map fun p => (t, p)

/-- The entry of a pair of target and platform. -/
def EntryAt (devices : List Candidate) (options : MatchOptions)
    (pair : (String × Target) × String) : Entry → Prop :=
  EntryOf devices options pair.1.1 pair.1.2 pair.2

section Targets

variable {devices : List Candidate} {options : MatchOptions} {ts : List (String × Target)}
  {groups : List (List Entry)}

/-- The entries of one target are those of its pairs. -/
lemma forall₂_entryAt {t : String × Target} {platforms : List String} {es : List Entry}
    (h : List.Forall₂ (EntryOf devices options t.1 t.2) platforms es) :
    List.Forall₂ (EntryAt devices options) (platforms.map fun p => (t, p)) es :=
  List.forall₂_map_left_iff.mpr h

/-- Groups of entries, one for each target, are the entries of the pairs that are declared. -/
lemma forall₂_declared
    (h : List.Forall₂ (fun t g => (targetEntries devices options t).outcome = .ok g) ts groups) :
    List.Forall₂ (EntryAt devices options) (declared ts) groups.flatten := by
  induction h with
  | nil => exact .nil
  | @cons t g ts groups hg _ ih =>
    obtain ⟨-, -, hes⟩ := (targetEntries_eq_ok_iff t g).mp hg
    rw [declared, List.flatMap_cons, List.flatten_cons]
    exact List.rel_append (forall₂_entryAt hes) ih

/-- Targets that are resolved report the details of all their entries, before the other targets. -/
lemma records_each_targetEntries
    (h : List.Forall₂ (fun t g => (targetEntries devices options t).outcome = .ok g) ts groups)
    (rest : List (String × Target)) :
    (each (targetEntries devices options) (ts ++ rest)).records =
      groups.flatten.flatMap Entry.details ++
        (each (targetEntries devices options) rest).records := by
  rw [records_each_append (fun t g hg => records_targetEntries_of_ok hg) h, ← List.flatMap_id,
    List.flatMap_assoc]
  rfl

end Targets

/-- The parts of the message that sums a resolution up. -/
lemma summaryMessage_eq (targets entries devices : Nat) :
    summaryMessage targets entries devices = "[RESOLVE] " ++ toString targets ++
      " target(s) resolved into " ++ toString entries ++
      (if entries = 1 then " entry" else " entries") ++ " against " ++ toString devices ++
      " device(s)" := by
  have hword : (if entries = 1 then " entry" else " entries") =
      " entr" ++ if entries = 1 then "y" else "ies" := by
    split <;> rfl
  unfold summaryMessage
  rw [hword, ← String.append_assoc, ← String.append_assoc]
  rfl

section Resolved

variable {project : Project} {supply : Supply} {options : MatchOptions}

/-- A resolution that succeeds reports the details of its entries, then the labels that are shared,
and sums itself up. -/
lemma records_resolve_of_ok {es : List Entry}
    (h : (resolve project supply options).1.outcome = .ok es) :
    (resolve project supply options).1.records = es.flatMap Entry.details ++ (collisions es ++
      [.of .info .resolution (summaryMessage project.targets.toList.length es.length
        supply.devices.length)]) := by
  obtain ⟨groups, rfl, hg⟩ := (resolve_eq_ok_iff project supply options es).mp h
  have hgroups := hg.imp fun t g => (targetEntries_eq_ok_iff t g).mpr
  have heach := records_each_targetEntries hgroups []
  rw [List.append_nil, records_each_nil, List.append_nil] at heach
  rw [records_resolve h, heach]

/-- A resolution that fails reports its targets up to the one that fails, and nothing else. -/
lemma records_resolve_of_error {err : ResolutionError}
    (h : (resolve project supply options).1.outcome = .error err) :
    (resolve project supply options).1.records =
      (each (targetEntries supply.devices options) project.targets.toList).records := by
  simp only [resolve, entries] at h ⊢
  cases heach : (each (targetEntries supply.devices options) project.targets.toList).outcome with
  | error e => rw [records_bind_of_error heach]
  | ok groups =>
    -- what follows the targets cannot fail
    rw [outcome_bind, heach] at h
    cases h

end Resolved

/-- **What a resolution reports.** One that succeeds reports the details of its entries in their
order, warns of each label that several entries share, and sums up how many targets, entries and
devices there are. One that fails reports the details of the entries on the pairs of target and
platform that are resolved before the failing one, and nothing else: those of all targets before the
first one that fails, and of this one the platforms that are matched before it fails, which are none
if it has no platform or one that is declared again.

**Proof sketch.** The entries of a target are reported by their details up to the first platform
whose matching fails (`records_targetEntries_of_ok`, `exists_records_targetEntries_of_error`), and
so are the targets up to the first one that fails (`records_each_targetEntries`). Only if none does
is there a warning or a summary (`records_resolve_of_ok`, `records_resolve_of_error`). -/
theorem resolve_records (project : Project) (supply : Supply) (options : MatchOptions) :
    (∀ es, (resolve project supply options).1.outcome = .ok es →
        ∃ shared : List String,
          (∀ label, label ∈ shared ↔ 1 < (labelled es label).length) ∧
          InOrderOfAppearance shared (es.map Entry.name) ∧
          (resolve project supply options).1.records = es.flatMap Entry.details ++
            (shared.map fun label => .of .warning .resolution
              ("[RESOLVE] " ++ toString (labelled es label).length ++ " entries share the label " ++
                Quoted.ofText label ++ "; use entry keys to tell them apart")) ++
            [.of .info .resolution ("[RESOLVE] " ++ toString project.targets.toList.length ++
              " target(s) resolved into " ++ toString es.length ++
              (if es.length = 1 then " entry" else " entries") ++ " against " ++
              toString supply.devices.length ++ " device(s)")]) ∧
      ∀ err, (resolve project supply options).1.outcome = .error err →
        ∃ before t after done es, project.targets.toList = before ++ t :: after ∧
          (∀ s ∈ before, ∀ e, ¬ TargetFails supply.devices options s.1 s.2 e) ∧
          TargetFails supply.devices options t.1 t.2 err ∧
          MatchedBefore supply.devices options t.2 done ∧
          List.Forall₂ (EntryAt supply.devices options)
            (declared before ++ done.map fun p => (t, p)) es ∧
          (resolve project supply options).1.records = es.flatMap Entry.details := by
  constructor
  · intro es h
    refine ⟨sharedLabels es, fun label => mem_sharedLabels, ?_, ?_⟩
    · exact (inOrderOfAppearance_distinctNames _).filter _
    · rw [records_resolve_of_ok h, collisions_eq, summaryMessage_eq, List.append_assoc]
  · intro err h
    obtain ⟨before, t, after, hsplit, hbefore, ht⟩ :=
      (resolve_eq_error_iff project supply options err).mp h
    obtain ⟨groups, hgroups⟩ := (exists_mapM_eq_ok_iff _ before).mpr fun s hs =>
      (exists_targetEntries_eq_ok_iff supply.devices options s).mpr (hbefore s hs)
    rw [mapM_eq_ok_iff] at hgroups
    have herror := (targetEntries_eq_error_iff t err).mpr ht
    obtain ⟨done, es, hdone, hes, hrecords⟩ := exists_records_targetEntries_of_error herror
    refine ⟨before, t, after, done, groups.flatten ++ es, hsplit, hbefore, ht, hdone, ?_, ?_⟩
    · exact List.rel_append (forall₂_declared hgroups) (forall₂_entryAt hes)
    · rw [records_resolve_of_error h, hsplit, records_each_targetEntries hgroups,
        records_each_cons_of_error herror, hrecords, List.flatMap_append]

/-- Two entries that share a label are reported before the warning of it, and of a target whose
second platform is no pattern the first one is reported, but not its error. -/
theorem resolve_records_malformed_platform :
    let supply : Supply := .iterator
      [⟨some (.str "iPhone"), some (.str "P"), some (.str "x.ios-17")⟩,
        ⟨some (.str "MacBook"), some (.str "M"), some (.str "x.macos")⟩]
    let resolved : Project := ⟨none, { toList := [("App", ⟨"App", ["ios", "mac"]⟩),
      ("App_ios", ⟨"App_ios", ["os"]⟩)] }⟩
    let refused : Project := ⟨none, { toList := [("App", ⟨"App", ["ios"]⟩),
      ("Kit", ⟨"Kit", ["os", "(", "mac"]⟩), ("Core", ⟨"Core", []⟩)] }⟩
    (∃ (es : List Entry) (shared : List String),
        (resolve resolved supply {}).1.outcome = .ok es ∧ "App_ios" ∈ shared ∧
        (resolve resolved supply {}).1.records = es.flatMap Entry.details ++
          (shared.map fun label => .of .warning .resolution
            ("[RESOLVE] " ++ toString (labelled es label).length ++ " entries share the label " ++
              Quoted.ofText label ++ "; use entry keys to tell them apart")) ++
          [.of .info .resolution
            "[RESOLVE] 2 target(s) resolved into 3 entries against 2 device(s)"]) ∧
      ∃ (err : ResolutionError) (t : String × Target) (done : List String) (es : List Entry),
        (resolve refused supply {}).1.outcome = .error err ∧
        t ∈ refused.targets.toList ∧ TargetFails supply.devices {} t.1 t.2 err ∧
        MatchedBefore supply.devices {} t.2 done ∧
        (resolve refused supply {}).1.records = es.flatMap Entry.details ∧
        es.flatMap Entry.details =
          [.of .debug .matching "[MATCH] platform='ios' matched 1 device(s)",
            .of .debug .resolution "[RESOLVE] App -> 1 runner(s)",
            .of .debug .matching "[MATCH] platform='os' matched 2 device(s)",
            .of .debug .resolution "[RESOLVE] Kit_os -> 2 runner(s)"] := by
  intro supply resolved refused
  constructor
  · have hes : (resolve resolved supply {}).1.outcome =
        .ok [⟨"App_ios", "App", "ios", [⟨"iPhone", "P"⟩]⟩,
          ⟨"App_mac", "App", "mac", [⟨"MacBook", "M"⟩]⟩,
          ⟨"App_ios", "App_ios", "os", [⟨"iPhone", "P"⟩, ⟨"MacBook", "M"⟩]⟩] :=
      eq_ok_of_toOption (by decide +kernel)
    obtain ⟨shared, hshared, -, hrecords⟩ := (resolve_records _ _ _).1 _ hes
    have hsummary : "[RESOLVE] " ++ toString 2 ++ " target(s) resolved into " ++ toString 3 ++
        " entries" ++ " against " ++ toString 2 ++ " device(s)" =
        "[RESOLVE] 2 target(s) resolved into 3 entries against 2 device(s)" := by
      decide +kernel
    rw [← hsummary]
    exact ⟨_, shared, hes, (hshared "App_ios").mpr (by decide), hrecords⟩
  · obtain ⟨err, herr⟩ : ∃ err, (resolve refused supply {}).1.outcome = .error err :=
      exists_eq_error_of_isNone (by decide +kernel)
    obtain ⟨before, t, after, done, es, hsplit, -, ht, hdone, -, hrecords⟩ :=
      (resolve_records _ _ _).2 err herr
    refine ⟨err, t, done, es, herr, by simp [hsplit], ht, hdone, hrecords, ?_⟩
    rw [← hrecords]
    decide +kernel

end Resolution

end RunnerAtlas
