import Mathlib.Algebra.Ring.Nat
import Mathlib.Data.List.Nodup
import RunnerAtlas.Proofs.Resolution.Target

set_option relaxedAutoImplicit false
set_option autoImplicit false

/-!
# The entries of a project

A project that is resolved has one entry for each declared pair of target and platform, in the
order of the declarations, and each entry has the runners that its platform has among all devices.

## Main definitions

* `RunnerAtlas.NamedTargets.pairs` — the declared pairs of key and platform.

## Main results

* `RunnerAtlas.Resolution.resolve_eq_ok_iff` — which entries a project is resolved into.
* `RunnerAtlas.Resolution.resolve_declared_pairs` — what they are in terms of the declarations.
-/

namespace RunnerAtlas

open Journal Outcome

/-! ### Declared pairs -/

namespace NamedTargets

/-- The declared pairs of key and platform, in the order of the targets and of their platforms. -/
def pairs (targets : NamedTargets) : List (String × String) :=
  targets.toList.flatMap fun t => t.2.platforms.map fun p => (t.1, p)

/-- The declared pairs are distinct if no target declares a platform twice. -/
lemma pairs_nodup {targets : NamedTargets} (hp : ∀ t ∈ targets.toList, t.2.platforms.Nodup) :
    targets.pairs.Nodup := by
  refine List.nodup_flatMap.mpr ⟨fun t ht => ?_, (List.pairwise_map.mp targets.nodup_keys).imp ?_⟩
  · exact (hp t ht).map fun p q hpq => (Prod.mk.inj hpq).2
  · intro t t' hne pair hpair hpair'
    obtain ⟨p, -, rfl⟩ := List.mem_map.mp hpair
    obtain ⟨p', -, hp'⟩ := List.mem_map.mp hpair'
    exact hne (Prod.mk.inj hp').1.symm

end NamedTargets

namespace Resolution

/-! ### Lists that correspond member by member -/

section Correspondence

variable {α β γ : Type}

/-- Lists whose members correspond have the same images where corresponding members do. -/
lemma map_eq_map_of_forall₂ {R : α → β → Prop} {as : List α} {bs : List β} (f : α → γ) (g : β → γ)
    (hR : ∀ a b, R a b → g b = f a) (h : List.Forall₂ R as bs) : bs.map g = as.map f := by
  induction h with
  | nil => rfl
  | cons hab _ ih => rw [List.map_cons, List.map_cons, hR _ _ hab, ih]

/-- A list of groups that correspond to the members of a list has the images that these have. -/
lemma map_flatten_of_forall₂ {R : α → List β → Prop} {as : List α} {groups : List (List β)}
    (f : α → List γ) (g : β → γ) (hR : ∀ a bs, R a bs → bs.map g = f a)
    (h : List.Forall₂ R as groups) : groups.flatten.map g = as.flatMap f := by
  rw [List.map_flatten, map_eq_map_of_forall₂ f (List.map g) hR h, List.flatMap_def]

/-- A member of a list corresponds to one of the other list. -/
lemma exists_of_forall₂_of_mem {R : α → β → Prop} {as : List α} {bs : List β}
    (h : List.Forall₂ R as bs) {b : β} (hb : b ∈ bs) : ∃ a ∈ as, R a b := by
  induction h with
  | nil => cases hb
  | cons hab _ ih =>
    rcases List.mem_cons.mp hb with rfl | hb
    · exact ⟨_, by simp, hab⟩
    · obtain ⟨a, ha, hR⟩ := ih hb
      exact ⟨a, List.mem_cons_of_mem _ ha, hR⟩

end Correspondence

/-! ### All targets -/

/-- The entries of all targets are those of each target, one after the other. -/
lemma outcome_entries (targets : NamedTargets) (devices : List Candidate)
    (options : MatchOptions) :
    (entries targets devices options).outcome =
      (targets.toList.mapM fun t => (targetEntries devices options t).outcome).map
        List.flatten := by
  simp only [entries, Logged.outcome_bind, outcome_each, Logged.outcome_log, Logged.outcome_pure]
  cases targets.toList.mapM fun t => (targetEntries devices options t).outcome <;> rfl

/-- A project is resolved exactly if each of its targets declares platforms, none of them twice,
whose matching succeeds. -/
theorem resolve_eq_ok_iff (project : Project) (supply : Supply) (options : MatchOptions)
    (es : List Entry) :
    (resolve project supply options).1.outcome = .ok es ↔
      ∃ groups, groups.flatten = es ∧ List.Forall₂ (fun t g => t.2.platforms ≠ [] ∧
        t.2.platforms.Nodup ∧
          List.Forall₂ (EntryOf supply.devices options t.1 t.2) t.2.platforms g)
        project.targets.toList groups := by
  simp only [resolve, outcome_entries, map_eq_ok_iff, mapM_eq_ok_iff, targetEntries_eq_ok_iff]
  exact exists_congr fun groups => and_comm

/-- **The entries of a project.** Whenever a project is resolved, against a list of devices or an
iterator over them, the keys of its entries are the declared pairs of target and platform in the
order of the declarations, and they are distinct; there are as many entries as platforms; each entry
has the runners that matching its platform against all devices gives, and the name of an entry is
the key of its target, with the platform if the target has several.

**Proof sketch.** The entries come in groups that correspond to the targets, and each group
corresponds to the platforms of its target (`resolve_eq_ok_iff`). Keys and names are images of
corresponding members. No target of a project that is resolved declares a platform twice, so the
declared pairs are distinct (`NamedTargets.pairs_nodup`). -/
theorem resolve_declared_pairs (project : Project) (supply : Supply) (options : MatchOptions)
    (es : List Entry) (h : (resolve project supply options).1.outcome = .ok es) :
    es.map Entry.key = project.targets.pairs ∧
      (es.map Entry.key).Nodup ∧
      es.length = (project.targets.toList.map fun t => t.2.platforms.length).sum ∧
      (∀ e ∈ es, (Matching.runners e.platform supply.devices options).outcome = .ok e.runners) ∧
      es.map Entry.name = project.targets.toList.flatMap fun t => t.2.platforms.map fun p =>
        if t.2.platforms.length = 1 then t.1 else t.1 ++ "_" ++ p := by
  obtain ⟨groups, rfl, hg⟩ := (resolve_eq_ok_iff project supply options es).mp h
  have hpairs : groups.flatten.map Entry.key = project.targets.pairs := by
    refine map_flatten_of_forall₂ _ _ (fun t g ht => ?_) hg
    refine map_eq_map_of_forall₂ _ _ (fun p e he => ?_) ht.2.2
    obtain ⟨-, htarget, hplatform, -⟩ := he
    rw [Entry.key, htarget, hplatform]
  refine ⟨hpairs, ?_, ?_, ?_, ?_⟩
  · rw [hpairs]
    refine NamedTargets.pairs_nodup fun t ht => ?_
    obtain ⟨g, -, -, hd, -⟩ := exists_of_forall₂_of_mem hg.flip ht
    exact hd
  · have hlen := congrArg List.length hpairs
    rw [List.length_map] at hlen
    rw [hlen]
    simp [NamedTargets.pairs, List.length_flatMap]
  · intro e he
    obtain ⟨g, hgm, heg⟩ := List.mem_flatten.mp he
    obtain ⟨t, -, -, -, ht⟩ := exists_of_forall₂_of_mem hg hgm
    obtain ⟨p, -, hrunners, -, rfl, -⟩ := exists_of_forall₂_of_mem ht heg
    exact hrunners
  · refine map_flatten_of_forall₂ _ _ (fun t g ht => ?_) hg
    exact map_eq_map_of_forall₂ _ _ (fun p e he => he.2.2.2) ht.2.2

/-- A target that is named otherwise than its key, with two platforms, and one with one platform are
resolved against an iterator: the second platform and the second target find all devices too. -/
theorem resolve_declared_pairs_iterator :
    ∃ es, (resolve ⟨none, { toList := [("App", ⟨"Renamed", ["ios", "mac"]⟩),
          ("Widget", ⟨"Widget", ["ios"]⟩)] }⟩
        (.iterator [⟨some (.str "iPhone"), some (.str "P"), some (.str "x.ios-17")⟩,
          ⟨some (.str "MacBook"), some (.str "M"), some (.str "x.macos")⟩]) {}).1.outcome = .ok es ∧
      es.map Entry.key = [("App", "ios"), ("App", "mac"), ("Widget", "ios")] ∧
      es.map Entry.name = ["App_ios", "App_mac", "Widget"] ∧
      es.map Entry.runners = [[⟨"iPhone", "P"⟩], [⟨"MacBook", "M"⟩], [⟨"iPhone", "P"⟩]] := by
  have hes : (resolve ⟨none, { toList := [("App", ⟨"Renamed", ["ios", "mac"]⟩),
        ("Widget", ⟨"Widget", ["ios"]⟩)] }⟩
      (.iterator [⟨some (.str "iPhone"), some (.str "P"), some (.str "x.ios-17")⟩,
        ⟨some (.str "MacBook"), some (.str "M"), some (.str "x.macos")⟩]) {}).1.outcome =
      .ok [⟨"App_ios", "App", "ios", [⟨"iPhone", "P"⟩]⟩,
        ⟨"App_mac", "App", "mac", [⟨"MacBook", "M"⟩]⟩,
        ⟨"Widget", "Widget", "ios", [⟨"iPhone", "P"⟩]⟩] :=
    eq_ok_of_toOption (by decide +kernel)
  obtain ⟨hkeys, -, -, -, hnames⟩ := resolve_declared_pairs _ _ _ _ hes
  exact ⟨_, hes, hkeys, hnames, rfl⟩

end Resolution

end RunnerAtlas
