import Mathlib.Data.Finset.Card
import RunnerAtlas.Proofs.Journal.Emissions
import RunnerAtlas.Proofs.Resolution.Appearance
import RunnerAtlas.Proofs.Resolution.Entries

set_option relaxedAutoImplicit false
set_option autoImplicit false

/-!
# Labels that entries share

The entries of one target have different labels, since a target with several platforms puts each of
them into its label. So entries share a label only if they are of different targets. A resolution
that succeeds keeps them all and warns of every label that is shared.

## Main definitions

* `RunnerAtlas.Resolution.labelled` — the entries under a label.
* `RunnerAtlas.NamedTargets.pairsUnder` — the declared pairs that have a label.
* `RunnerAtlas.Journal.Record.isWarning` — whether a record warns of something.

## Main results

* `RunnerAtlas.Resolution.collisions_eq` — the warnings, one for each label that is shared.
* `RunnerAtlas.Resolution.pairwise_target_ne` — entries that share a label are of different targets.
* `RunnerAtlas.Resolution.resolve_warnings` — what a resolution warns of.
-/

namespace RunnerAtlas

open Journal Journal.Logged Outcome RunnerAtlas.Text

/-- Whether a record warns of something. -/
def Journal.Record.isWarning (r : Record) : Bool := r.level == Level.warning.number

namespace Resolution

/-! ### Labels -/

/-- The label of a target on a platform: its key, with the platform if the target has several. -/
def labelOf (t : String × Target) (platform : String) : String :=
  if t.2.platforms.length = 1 then t.1 else t.1 ++ "_" ++ platform

/-- The entries under a label, in order. -/
def labelled (es : List Entry) (label : String) : List Entry := es.filter fun e => e.name == label

end Resolution

/-- The declared pairs of key and platform that have a label, in the order of their declaration. -/
def NamedTargets.pairsUnder (targets : NamedTargets) (label : String) : List (String × String) :=
  targets.toList.flatMap fun t =>
    (t.2.platforms.filter fun p => Resolution.labelOf t p == label).map fun p => (t.1, p)

namespace Resolution

/-! ### Warnings of some entries -/

/-- There are as many entries under a label as the names of the entries have it. -/
lemma length_labelled (es : List Entry) (label : String) :
    (labelled es label).length = (es.map Entry.name).count label := by
  rw [List.count_eq_length_filter, List.filter_map, List.length_map]
  rfl

/-- The labels that several entries share, in the order in which they first come. -/
def sharedLabels (es : List Entry) : List String :=
  (distinctNames (es.map Entry.name)).filter fun label => decide (1 < (labelled es label).length)

/-- The labels that are shared are those with several entries. -/
lemma mem_sharedLabels {es : List Entry} {label : String} :
    label ∈ sharedLabels es ↔ 1 < (labelled es label).length := by
  rw [sharedLabels, List.mem_filter, mem_distinctNames, decide_eq_true_eq, and_iff_right_iff_imp,
    length_labelled]
  intro h
  exact List.count_pos_iff.mp (by omega)

/-- The parts of the message on a label that is shared. -/
lemma collisionMessage_eq (label : String) (count : Nat) :
    collisionMessage label count = "[RESOLVE] " ++ toString count ++ " entries share the label " ++
      Quoted.ofText label ++ "; use entry keys to tell them apart" := by
  show _ ++ "; " ++ "use entry keys to tell them apart" = _
  rw [String.append_assoc]
  rfl

/-- There is one warning for each label that is shared, with the number of its entries. -/
theorem collisions_eq (es : List Entry) :
    collisions es = (sharedLabels es).map fun label => .of .warning .resolution
      ("[RESOLVE] " ++ toString (labelled es label).length ++ " entries share the label " ++
        Quoted.ofText label ++ "; use entry keys to tell them apart") := by
  rw [sharedLabels, ← List.filterMap_eq_map, List.filterMap_filter]
  refine List.filterMap_congr fun label _ => ?_
  simp only [length_labelled, decide_eq_true_eq, Function.comp_apply, ← collisionMessage_eq]

/-! ### Records of a resolution -/

/-- The entries of targets are reported by details only. -/
lemma reports_debug_each (devices : List Candidate) (options : MatchOptions)
    (ts : List (String × Target)) :
    (each (targetEntries devices options) ts).Reports fun r => r.level = Level.debug.number := by
  refine reports_each fun t _ => ?_
  unfold targetEntries
  split
  · exact .of_nil rfl
  split
  · exact .of_nil rfl
  · refine reports_each fun p _ => ?_
    have hrunners := (Matching.reportsValue_runners p devices options).reports
      (P := fun r => r.level = Level.debug.number) fun _ => rfl
    refine .bind (hrunners.mapError _) fun _ _ => .bind ?_ fun _ _ => .of_nil rfl
    intro r hr
    rw [List.mem_singleton.mp hr]
    rfl

section Resolved

variable {project : Project} {supply : Supply} {options : MatchOptions} {es : List Entry}

/-- A resolution that succeeds reports its targets, then the labels that are shared, and sums itself
up. -/
lemma records_resolve (h : (resolve project supply options).1.outcome = .ok es) :
    (resolve project supply options).1.records =
      (each (targetEntries supply.devices options) project.targets.toList).records ++
        (collisions es ++ [.of .info .resolution (summaryMessage project.targets.toList.length
          es.length supply.devices.length)]) := by
  simp only [resolve, entries, outcome_bind, bind_eq_ok_iff] at h
  obtain ⟨groups, hgroups, _, -, _, -, hes⟩ := h
  cases hes
  simp only [resolve, entries]
  rw [records_bind_of_ok hgroups, records_bind_of_ok (outcome_report _), records_report]
  rfl

/-- A resolution that succeeds warns of the labels that are shared, and of nothing else. -/
lemma filter_isWarning_records (h : (resolve project supply options).1.outcome = .ok es) :
    (resolve project supply options).1.records.filter Record.isWarning = collisions es := by
  have hdebug : (each (targetEntries supply.devices options)
      project.targets.toList).records.filter Record.isWarning = [] := by
    refine List.filter_eq_nil_iff.mpr fun r hr => ?_
    rw [Record.isWarning, reports_debug_each _ _ _ r hr]
    decide
  have hcollisions : (collisions es).filter Record.isWarning = collisions es := by
    refine List.filter_eq_self.mpr fun r hr => ?_
    rw [collisions_eq] at hr
    obtain ⟨label, -, rfl⟩ := List.mem_map.mp hr
    rfl
  rw [records_resolve h, List.filter_append, List.filter_append, hdebug, hcollisions]
  simp [Record.isWarning, Record.of, Level.number]

/-! ### Entries that share a label -/

/-- The entries are those of the declared pairs, under their labels. -/
lemma map_key_name (h : (resolve project supply options).1.outcome = .ok es) :
    (es.map fun e => (e.key, e.name)) = project.targets.toList.flatMap fun t =>
      t.2.platforms.map fun p => ((t.1, p), labelOf t p) := by
  obtain ⟨groups, rfl, hg⟩ := (resolve_eq_ok_iff project supply options es).mp h
  refine map_flatten_of_forall₂ _ _ (fun t g ht => ?_) hg
  refine map_eq_map_of_forall₂ _ _ (fun p e he => ?_) ht.2.2
  obtain ⟨-, htarget, hplatform, hname⟩ := he
  rw [Entry.key, htarget, hplatform, hname]
  rfl

/-- The entries under a label are those of the declared pairs that have it. -/
lemma map_key_labelled (h : (resolve project supply options).1.outcome = .ok es)
    (label : String) : (labelled es label).map Entry.key = project.targets.pairsUnder label := by
  have hpairs := congrArg (fun pairs => (pairs.filter fun pair => pair.2 == label).map Prod.fst)
    (map_key_name h)
  simpa [labelled, NamedTargets.pairsUnder, List.filter_map, List.filter_flatMap,
    List.map_flatMap, Function.comp_def] using hpairs

/-- The entries have distinct keys. -/
lemma nodup_map_key (h : (resolve project supply options).1.outcome = .ok es) :
    (es.map Entry.key).Nodup := by
  have hpairs := congrArg (List.map Prod.fst) (map_key_name h)
  simp only [List.map_map, Function.comp_def, List.map_flatMap] at hpairs
  rw [hpairs]
  obtain ⟨groups, -, hg⟩ := (resolve_eq_ok_iff project supply options es).mp h
  refine NamedTargets.pairs_nodup fun t ht => ?_
  obtain ⟨g, -, -, hd, -⟩ := exists_of_forall₂_of_mem hg.flip ht
  exact hd

/-- A target tells its platforms apart by their labels. -/
lemma labelOf_injOn {t : String × Target} {p q : String} (hp : p ∈ t.2.platforms)
    (hq : q ∈ t.2.platforms) (h : labelOf t p = labelOf t q) : p = q := by
  unfold labelOf at h
  split at h
  · rename_i hone
    obtain ⟨r, hr⟩ := List.length_eq_one_iff.mp hone
    rw [hr] at hp hq
    rw [List.mem_singleton.mp hp, List.mem_singleton.mp hq]
  · exact (String.append_right_inj (t.1 ++ "_")).mp h

/-- Every entry is that of a platform of one of the targets. -/
lemma exists_target_of_mem (h : (resolve project supply options).1.outcome = .ok es) {e : Entry}
    (he : e ∈ es) : ∃ t ∈ project.targets.toList, e.target = t.1 ∧ e.platform ∈ t.2.platforms ∧
      e.name = labelOf t e.platform := by
  have hmem : (e.key, e.name) ∈ es.map fun e => (e.key, e.name) :=
    List.mem_map_of_mem (f := fun e => (e.key, e.name)) he
  rw [map_key_name h] at hmem
  obtain ⟨t, ht, hmem⟩ := List.mem_flatMap.mp hmem
  obtain ⟨p, hp, hpair⟩ := List.mem_map.mp hmem
  simp only [Prod.mk.injEq, Entry.key] at hpair
  obtain ⟨⟨htarget, rfl⟩, hname⟩ := hpair
  exact ⟨t, ht, htarget.symm, hp, hname.symm⟩

/-- Two entries of one target under one label are of one platform.

**Proof sketch.** The keys of a project are distinct, so the two entries are of the same target,
which tells its platforms apart (`labelOf_injOn`). -/
lemma key_eq_of_target_eq (h : (resolve project supply options).1.outcome = .ok es)
    {e e' : Entry} (he : e ∈ es) (he' : e' ∈ es) (htarget : e.target = e'.target)
    (hname : e.name = e'.name) : e.key = e'.key := by
  obtain ⟨t, ht, hkey, hp, hlabel⟩ := exists_target_of_mem h he
  obtain ⟨t', ht', hkey', hp', hlabel'⟩ := exists_target_of_mem h he'
  have hsame : t = t' := by
    refine List.inj_on_of_nodup_map project.targets.nodup_keys ht ht' ?_
    rw [← hkey, ← hkey', htarget]
  subst hsame
  have hplatform : e.platform = e'.platform := by
    refine labelOf_injOn hp hp' ?_
    rw [← hlabel, ← hlabel', hname]
  rw [Entry.key, Entry.key, htarget, hplatform]

/-- Entries that share a label are of different targets. -/
theorem pairwise_target_ne (h : (resolve project supply options).1.outcome = .ok es) :
    es.Pairwise fun e e' => e.name = e'.name → e.target ≠ e'.target := by
  refine List.Pairwise.imp_of_mem ?_ (List.pairwise_map.mp (nodup_map_key h))
  intro e e' he he' hkey hname htarget
  exact hkey (key_eq_of_target_eq h he he' htarget hname)

/-- The entries under a label are of as many targets. -/
lemma nodup_map_target_labelled (h : (resolve project supply options).1.outcome = .ok es)
    (label : String) : ((labelled es label).map Entry.target).Nodup := by
  refine List.pairwise_map.mpr (List.Pairwise.imp_of_mem ?_ ((pairwise_target_ne h).filter _))
  intro e e' he he' hne
  have hname : e.name = label := by simpa using (List.mem_filter.mp he).2
  have hname' : e'.name = label := by simpa using (List.mem_filter.mp he').2
  exact hne (hname.trans hname'.symm)

end Resolved

/-- **Labels that are shared.** A resolution that succeeds warns of each label that several entries
share, in the order in which these labels first come, with the number of the entries, and of nothing
else. Entries that share a label are of different targets, so that their number is that of their
targets. All of them are among the entries, under distinct keys: for each label the entries are
those of the declared pairs that have it.

**Proof sketch.** Targets are reported by details and the whole by one piece of information, so that
the warnings are those of the collisions (`filter_isWarning_records`), one for each name that is
counted more than once (`collisions_eq`). The names are found in the order in which they first come
(`inOrderOfAppearance_distinctNames`). Two entries of one target have different labels
(`pairwise_target_ne`), since otherwise they would have the same key. -/
theorem resolve_warnings (project : Project) (supply : Supply) (options : MatchOptions)
    (es : List Entry) (h : (resolve project supply options).1.outcome = .ok es) :
    (∃ shared : List String,
        (∀ label, label ∈ shared ↔ 1 < (labelled es label).length) ∧
        InOrderOfAppearance shared (es.map Entry.name) ∧
        (resolve project supply options).1.records.filter Record.isWarning =
          shared.map fun label => .of .warning .resolution
            ("[RESOLVE] " ++ toString (labelled es label).length ++ " entries share the label " ++
              Quoted.ofText label ++ "; use entry keys to tell them apart")) ∧
      (es.Pairwise fun e e' => e.name = e'.name → e.target ≠ e'.target) ∧
      (∀ label,
        (labelled es label).length = ((labelled es label).map Entry.target).toFinset.card ∧
        (labelled es label).map Entry.key = project.targets.pairsUnder label) ∧
      (es.map Entry.key).Nodup := by
  refine ⟨⟨sharedLabels es, fun label => mem_sharedLabels, ?_, ?_⟩, pairwise_target_ne h,
    fun label => ⟨?_, map_key_labelled h label⟩, nodup_map_key h⟩
  · exact (inOrderOfAppearance_distinctNames _).filter _
  · rw [filter_isWarning_records h, collisions_eq]
  · rw [List.toFinset_card_of_nodup (nodup_map_target_labelled h label), List.length_map]

/-- A label that a target with several platforms shares with a target that is named like it, and one
that two targets with several platforms share: there is a warning for each, and all entries are
there. -/
theorem resolve_warnings_two_labels :
    let project : Project := ⟨none, { toList := [("App", ⟨"App", ["ios", "mac"]⟩),
      ("Kit", ⟨"Kit", ["a_b", "c"]⟩), ("App_ios", ⟨"App_ios", ["tv"]⟩),
      ("Kit_a", ⟨"Kit_a", ["b", "d"]⟩)] }⟩
    ∃ es, (resolve project (.list []) {}).1.outcome = .ok es ∧
      (resolve project (.list []) {}).1.records.filter Record.isWarning =
        [.of .warning .resolution
            "[RESOLVE] 2 entries share the label 'App_ios'; use entry keys to tell them apart",
          .of .warning .resolution
            "[RESOLVE] 2 entries share the label 'Kit_a_b'; use entry keys to tell them apart"] ∧
      (labelled es "Kit_a_b").map Entry.key = [("Kit", "a_b"), ("Kit_a", "b")] ∧
      ((labelled es "Kit_a_b").map Entry.target).toFinset.card = 2 ∧
      (es.map Entry.key).Nodup := by
  intro project
  have hes : (resolve project (.list []) {}).1.outcome =
      .ok [⟨"App_ios", "App", "ios", []⟩, ⟨"App_mac", "App", "mac", []⟩,
        ⟨"Kit_a_b", "Kit", "a_b", []⟩, ⟨"Kit_c", "Kit", "c", []⟩, ⟨"App_ios", "App_ios", "tv", []⟩,
        ⟨"Kit_a_b", "Kit_a", "b", []⟩, ⟨"Kit_a_d", "Kit_a", "d", []⟩] :=
    eq_ok_of_toOption (by decide +kernel)
  obtain ⟨-, -, hlabel, hkeys⟩ := resolve_warnings _ _ _ _ hes
  obtain ⟨hcard, hpairs⟩ := hlabel "Kit_a_b"
  exact ⟨_, hes, by decide +kernel, hpairs, hcard.symm, hkeys⟩

end Resolution

end RunnerAtlas
