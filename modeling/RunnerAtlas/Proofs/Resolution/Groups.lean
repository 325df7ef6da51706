import RunnerAtlas.Proofs.Resolution.Appearance
import RunnerAtlas.Proofs.Resolution.Entries

set_option relaxedAutoImplicit false
set_option autoImplicit false

/-!
# Entries in groups

An entry is put at the end of the group of its target, and a target without a group gets one behind
the others. So a group holds the entries of its target in their order, and the groups stand in the
order in which their targets first come. The entries of a project come target by target, which makes
its groups the entries cut into pieces.

## Main definitions

* `RunnerAtlas.Resolution.ofTarget` — the entries of one target.

## Main results

* `RunnerAtlas.Resolution.putEntry_map` — what one more entry does to the groups.
* `RunnerAtlas.Resolution.byTarget_eq` — the groups of some entries.
* `RunnerAtlas.Resolution.byTarget_flatten` — the groups of entries that come target by target.
* `RunnerAtlas.Resolution.byTarget_partition` — what grouping keeps.
-/

namespace RunnerAtlas.Resolution

open Outcome

/-! ### One more entry -/

/-- The entries of a target, in order. -/
def ofTarget (es : List Entry) (key : String) : List Entry := es.filter fun e => e.target == key

/-- One more entry is one of its own target only. -/
lemma ofTarget_concat (es : List Entry) (e : Entry) (key : String) :
    ofTarget (es ++ [e]) key = ofTarget es key ++ if e.target = key then [e] else [] := by
  rw [ofTarget, List.filter_append, ofTarget]
  by_cases h : e.target = key <;> simp [h]

/-- One more entry goes to the end of the group of its target, which is put behind the others if it
was not there before.

**Proof sketch.** Induction on the keys. At the key of the entry the groups after it stay as they
are, since the keys are distinct. -/
lemma putEntry_map {keys : List String} {f : String → List Entry} {e : Entry} (hd : keys.Nodup)
    (hf : e.target ∉ keys → f e.target = []) :
    putEntry (keys.map fun key => (key, f key)) e =
      (keys ++ if e.target ∈ keys then [] else [e.target]).map fun key =>
        (key, f key ++ if e.target = key then [e] else []) := by
  induction keys with
  | nil => simp [putEntry, hf]
  | cons key rest ih =>
    obtain ⟨hnew, hd⟩ := List.nodup_cons.mp hd
    by_cases h : key = e.target
    · subst h
      have hrest : ∀ k ∈ rest, f k ++ (if e.target = k then [e] else []) = f k := by
        intro k hk
        have hne : e.target ≠ k := by
          rintro rfl
          exact hnew hk
        rw [if_neg hne, List.append_nil]
      simp only [List.map_cons, putEntry, List.mem_cons, true_or, ↓reduceIte, List.append_nil,
        List.cons.injEq, true_and]
      exact List.map_congr_left fun k hk => by rw [hrest k hk]
    · have hmem : e.target ∈ key :: rest ↔ e.target ∈ rest := by
        simp [List.mem_cons, Ne.symm h]
      rw [List.map_cons, putEntry, if_neg h, ih hd fun h' => hf (by rwa [hmem])]
      simp [hmem, Ne.symm h]

/-- One more entry is one more in the groups. -/
lemma perm_flatMap_putEntry (groups : List (String × List Entry)) (e : Entry) :
    ((putEntry groups e).flatMap Prod.snd).Perm (groups.flatMap Prod.snd ++ [e]) := by
  induction groups with
  | nil => exact .refl _
  | cons group rest ih =>
    rw [putEntry]
    split
    · simp only [List.flatMap_cons, List.append_assoc]
      exact .append_left _ List.perm_append_comm
    · simp only [List.flatMap_cons, List.append_assoc]
      exact .append_left _ ih

/-! ### All entries -/

/-- **The groups of some entries** are one for each of their targets, in the order in which the
targets first come, with the entries of the target.

**Proof sketch.** Induction from the end of the list. One more entry adds its target to the targets
exactly if it adds a group (`distinctNames_concat`, `putEntry_map`). -/
theorem byTarget_eq (es : List Entry) :
    byTarget es = (distinctNames (es.map Entry.target)).map fun key => (key, ofTarget es key) := by
  induction es using List.reverseRecOn with
  | nil => rfl
  | append_singleton es e ih =>
    have hstep : byTarget (es ++ [e]) = putEntry (byTarget es) e := by
      simp only [byTarget, List.foldl_append, List.foldl_cons, List.foldl_nil]
    have hnone : e.target ∉ distinctNames (es.map Entry.target) → ofTarget es e.target = [] := by
      intro hnew
      refine List.filter_eq_nil_iff.mpr fun e' he' heq => hnew (mem_distinctNames.mpr ?_)
      exact List.mem_map.mpr ⟨e', he', by simpa using heq⟩
    rw [hstep, ih, putEntry_map (inOrderOfAppearance_distinctNames _).nodup hnone]
    simp only [List.map_append, List.map_cons, List.map_nil, distinctNames_concat,
      mem_distinctNames, ofTarget_concat]

/-- Entries of two targets that take turns are moved together. -/
example : byTarget [⟨"App_ios", "App", "ios", []⟩, ⟨"Kit", "Kit", "tv", []⟩,
    ⟨"App_mac", "App", "mac", []⟩] =
      [("App", [⟨"App_ios", "App", "ios", []⟩, ⟨"App_mac", "App", "mac", []⟩]),
        ("Kit", [⟨"Kit", "Kit", "tv", []⟩])] := by
  decide

/-- Grouping keeps every entry, and as often as it is listed. -/
theorem perm_flatMap_byTarget (es : List Entry) :
    ((byTarget es).flatMap Prod.snd).Perm es := by
  induction es using List.reverseRecOn with
  | nil => exact .refl _
  | append_singleton es e ih =>
    simp only [byTarget, List.foldl_append, List.foldl_cons, List.foldl_nil]
    exact (perm_flatMap_putEntry _ e).trans (ih.append_right [e])

/-! ### Entries that come target by target -/

/-- Groups of other targets stay in front. -/
lemma putEntry_append {groups : List (String × List Entry)} {e : Entry}
    (h : e.target ∉ groups.map Prod.fst) (rest : List (String × List Entry)) :
    putEntry (groups ++ rest) e = groups ++ putEntry rest e := by
  induction groups with
  | nil => rfl
  | cons group groups ih =>
    simp only [List.map_cons, List.mem_cons, not_or] at h
    rw [List.cons_append, putEntry, if_neg (Ne.symm h.1), ih h.2, List.cons_append]

/-- Entries of one target without a group make one group. -/
lemma foldl_putEntry_of_target {key : String} {groups : List (String × List Entry)}
    (hnew : key ∉ groups.map Prod.fst) {es : List Entry} (hne : es ≠ [])
    (hes : ∀ e ∈ es, e.target = key) : es.foldl putEntry groups = groups ++ [(key, es)] := by
  induction es using List.reverseRecOn with
  | nil => exact absurd rfl hne
  | append_singleton es e ih =>
    obtain ⟨hes, he⟩ : (∀ e ∈ es, e.target = key) ∧ e.target = key := by
      simpa [or_imp, forall_and] using hes
    subst he
    rw [List.foldl_append, List.foldl_cons, List.foldl_nil]
    by_cases hnil : es = []
    · subst hnil
      have h := putEntry_append hnew []
      rwa [List.append_nil] at h
    · rw [ih hnil hes, putEntry_append hnew]
      simp [putEntry]

/-- Lists of entries, one for each of some targets, are put behind the groups as they are.

**Proof sketch.** Induction on the lists, for every list of groups. The first one makes a group
(`foldl_putEntry_of_target`), and its target is none of those to come. -/
lemma foldl_putEntry_flatten {keys : List String} {lists : List (List Entry)}
    (h : List.Forall₂ (fun key es => es ≠ [] ∧ ∀ e ∈ es, e.target = key) keys lists)
    (hd : keys.Nodup) (groups : List (String × List Entry))
    (hnew : ∀ key ∈ keys, key ∉ groups.map Prod.fst) :
    lists.flatten.foldl putEntry groups = groups ++ keys.zip lists := by
  induction h generalizing groups with
  | nil => simp
  | @cons key es keys lists hes _ ih =>
    obtain ⟨hkey, hd⟩ := List.nodup_cons.mp hd
    rw [List.forall_mem_cons] at hnew
    rw [List.flatten_cons, List.foldl_append, foldl_putEntry_of_target hnew.1 hes.1 hes.2, ih hd]
    · simp
    · intro k hk
      simp only [List.map_append, List.map_cons, List.map_nil, List.mem_append, List.mem_singleton,
        not_or]
      exact ⟨hnew.2 k hk, fun heq => hkey (heq ▸ hk)⟩

/-- **Entries that come target by target.** Lists of entries, one for each of some targets, are the
groups of all these entries. -/
theorem byTarget_flatten {keys : List String} {lists : List (List Entry)}
    (h : List.Forall₂ (fun key es => es ≠ [] ∧ ∀ e ∈ es, e.target = key) keys lists)
    (hd : keys.Nodup) : byTarget lists.flatten = keys.zip lists :=
  foldl_putEntry_flatten h hd [] (by simp)

/-- **Grouping is a stable partition.** The groups have distinct targets, those of the entries in
the order in which they first come. Each holds the entries of its target in their order, of which
there is one at least, and all groups together hold every entry as often as it is listed. If the
entries are those of a project, the groups are one for each of its targets, in its order, and one
after the other they are the entries as they were.

**Proof sketch.** The groups of any entries are known (`byTarget_eq`), and each step adds one entry
to them (`perm_flatMap_byTarget`). The entries of a project are the lists of the entries of its
targets, one after the other, and none of these is empty (`resolve_eq_ok_iff`). So they are the
groups (`byTarget_flatten`). -/
theorem byTarget_partition (es : List Entry) :
    ((byTarget es).map Prod.fst).Nodup ∧
      (∀ key, key ∈ (byTarget es).map Prod.fst ↔ key ∈ es.map Entry.target) ∧
      InOrderOfAppearance ((byTarget es).map Prod.fst) (es.map Entry.target) ∧
      (∀ group ∈ byTarget es, group.2 ≠ [] ∧ group.2 = es.filter fun e => e.target == group.1) ∧
      ((byTarget es).flatMap Prod.snd).Perm es ∧
      ∀ (project : Project) (supply : Supply) (options : MatchOptions),
        (resolve project supply options).1.outcome = .ok es →
          (byTarget es).map Prod.fst = project.targets.toList.map Prod.fst ∧
            (byTarget es).flatMap Prod.snd = es := by
  have hkeys : (byTarget es).map Prod.fst = distinctNames (es.map Entry.target) := by
    simp [byTarget_eq, Function.comp_def]
  have horder := inOrderOfAppearance_distinctNames (es.map Entry.target)
  rw [hkeys]
  refine ⟨horder.nodup, fun key => mem_distinctNames, horder, ?_, perm_flatMap_byTarget es, ?_⟩
  · intro group hgroup
    rw [byTarget_eq] at hgroup
    obtain ⟨key, hkey, rfl⟩ := List.mem_map.mp hgroup
    obtain ⟨e, he, rfl⟩ := List.mem_map.mp (mem_distinctNames.mp hkey)
    exact ⟨List.ne_nil_of_mem (List.mem_filter.mpr ⟨he, by simp⟩), rfl⟩
  · intro project supply options h
    obtain ⟨lists, rfl, hlists⟩ := (resolve_eq_ok_iff project supply options es).mp h
    have htargets : List.Forall₂ (fun key es => es ≠ [] ∧ ∀ e ∈ es, e.target = key)
        (project.targets.toList.map Prod.fst) lists := by
      refine List.forall₂_map_left_iff.mpr (hlists.imp ?_)
      rintro t g ⟨hne, -, hg⟩
      constructor
      · rintro rfl
        exact hne (List.forall₂_nil_right_iff.mp hg)
      · intro e he
        obtain ⟨p, -, -, htarget, -⟩ := exists_of_forall₂_of_mem hg he
        exact htarget
    have hlength : (project.targets.toList.map Prod.fst).length = lists.length :=
      htargets.length_eq
    rw [← hkeys, byTarget_flatten htargets project.targets.nodup_keys,
      List.map_fst_zip (Nat.le_of_eq hlength)]
    refine ⟨rfl, ?_⟩
    rw [List.flatMap_def, List.map_snd_zip (Nat.le_of_eq hlength.symm)]

/-- The entries of a project with two targets, one of them with two platforms, are cut where the
target changes. -/
theorem byTarget_partition_two_targets :
    ∃ es, (resolve ⟨none, { toList := [("Kit", ⟨"Kit", ["tv", "mac"]⟩),
        ("App", ⟨"App", ["ios"]⟩)] }⟩ (.list []) {}).1.outcome = .ok es ∧
      (byTarget es).map Prod.fst = ["Kit", "App"] ∧ (byTarget es).flatMap Prod.snd = es ∧
      ∀ group ∈ byTarget es, group.2 ≠ [] ∧ group.2 = es.filter fun e => e.target == group.1 := by
  have hes : (resolve ⟨none, { toList := [("Kit", ⟨"Kit", ["tv", "mac"]⟩),
      ("App", ⟨"App", ["ios"]⟩)] }⟩ (.list []) {}).1.outcome =
      .ok [⟨"Kit_tv", "Kit", "tv", []⟩, ⟨"Kit_mac", "Kit", "mac", []⟩, ⟨"App", "App", "ios", []⟩] :=
    eq_ok_of_toOption (by decide +kernel)
  obtain ⟨-, -, -, hgroups, -, hresolved⟩ := byTarget_partition _
  obtain ⟨hkeys, hflat⟩ := hresolved _ _ _ hes
  exact ⟨_, hes, hkeys, hflat, hgroups⟩

end RunnerAtlas.Resolution
