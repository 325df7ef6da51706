import Mathlib.Data.List.TakeWhile
import RunnerAtlas.Proofs.Resolution.Collisions

set_option relaxedAutoImplicit false
set_option autoImplicit false

/-!
# Labels that can be read

The label of a target with several platforms is its key, a low line and the platform, and that of
any other target is its key. A platform may hold low lines itself. But if no key holds one, the
first low line of a label is the one behind the key. So the label tells which target and which
platform an entry is of, and no two entries share it.

## Main definitions

* `RunnerAtlas.Resolution.keyPart`, `RunnerAtlas.Resolution.platformPart` — the text of a label
  before its first low line, and the text behind it.

## Main results

* `RunnerAtlas.Resolution.collisions_eq_nil_iff` — when there is no label to warn of.
* `RunnerAtlas.Resolution.keyPart_labelOf`, `RunnerAtlas.Resolution.platformPart_labelOf` — labels
  are read back.
* `RunnerAtlas.Resolution.resolve_labels` — labels of a project whose keys hold no low line.
-/

namespace RunnerAtlas.Resolution

open Journal Outcome

/-! ### Reading a label -/

/-- The text of a label before its first low line, which is all of it if it has none. -/
def keyPart (label : String) : String := String.ofList (label.toList.takeWhile (· != '_'))

/-- The text of a label behind its first low line. -/
def platformPart (label : String) : String :=
  String.ofList (label.toList.dropWhile (· != '_')).tail

/-- The characters of a key and a platform with a low line between them. -/
lemma toList_joined (key platform : String) :
    (key ++ "_" ++ platform).toList = key.toList ++ '_' :: platform.toList := by
  simp

section Key

variable {key : String}

/-- No character of a key without low lines is one. -/
lemma forall_ne_lowLine (h : '_' ∉ key.toList) : ∀ c ∈ key.toList, (c != '_') = true := by
  intro c hc
  rw [bne_iff_ne]
  rintro rfl
  exact h hc

/-- A key without low lines is read as itself. -/
lemma keyPart_of_notMem (h : '_' ∉ key.toList) : keyPart key = key := by
  rw [keyPart, List.takeWhile_eq_self_iff.mpr (forall_ne_lowLine h), String.ofList_toList]

/-- A key without low lines is what is before the first low line. -/
lemma keyPart_joined (h : '_' ∉ key.toList) (platform : String) :
    keyPart (key ++ "_" ++ platform) = key := by
  rw [keyPart, toList_joined, List.takeWhile_append_of_pos (forall_ne_lowLine h)]
  simp

/-- Any platform is what is behind the first low line if the key has none. -/
lemma platformPart_joined (h : '_' ∉ key.toList) (platform : String) :
    platformPart (key ++ "_" ++ platform) = platform := by
  rw [platformPart, toList_joined, List.dropWhile_append_of_pos (forall_ne_lowLine h)]
  simp

end Key

/-- A platform with low lines of its own is read back whole. -/
example : keyPart "App__x_y" = "App" ∧ platformPart "App__x_y" = "_x_y" := by
  decide

section Label

variable {t : String × Target}

/-- A label tells its target if the key has no low line. -/
theorem keyPart_labelOf (h : '_' ∉ t.1.toList) (p : String) : keyPart (labelOf t p) = t.1 := by
  unfold labelOf
  split
  · exact keyPart_of_notMem h
  · exact keyPart_joined h p

/-- A label with a low line tells its platform if the key has none. -/
theorem platformPart_labelOf (h : '_' ∉ t.1.toList) {p : String}
    (hp : '_' ∈ (labelOf t p).toList) : platformPart (labelOf t p) = p := by
  unfold labelOf at hp ⊢
  by_cases hone : t.2.platforms.length = 1
  · rw [if_pos hone] at hp
    exact absurd hp h
  · rw [if_neg hone]
    exact platformPart_joined h p

/-- A label without low lines is the key of a target with one platform. -/
lemma labelOf_of_notMem {p : String} (hp : '_' ∉ (labelOf t p).toList) :
    labelOf t p = t.1 ∧ t.2.platforms.length = 1 := by
  unfold labelOf at hp ⊢
  by_cases hone : t.2.platforms.length = 1
  · exact ⟨if_pos hone, hone⟩
  · rw [if_neg hone, toList_joined] at hp
    simp at hp

end Label

/-! ### Labels of a resolution -/

/-- There is nothing to warn of exactly if the labels are distinct. -/
theorem collisions_eq_nil_iff (es : List Entry) :
    collisions es = [] ↔ (es.map Entry.name).Nodup := by
  rw [collisions_eq, List.map_eq_nil_iff, List.eq_nil_iff_forall_not_mem,
    List.nodup_iff_count_le_one]
  simp only [mem_sharedLabels, length_labelled, Nat.not_lt]

section Resolved

variable {project : Project} {supply : Supply} {options : MatchOptions} {es : List Entry}

/-- Entries of targets whose keys have no low line tell their targets by their labels. -/
lemma keyPart_name (hkeys : ∀ t ∈ project.targets.toList, '_' ∉ t.1.toList)
    (h : (resolve project supply options).1.outcome = .ok es) {e : Entry} (he : e ∈ es) :
    keyPart e.name = e.target := by
  obtain ⟨t, ht, htarget, -, hname⟩ := exists_target_of_mem h he
  rw [hname, htarget]
  exact keyPart_labelOf (hkeys t ht) e.platform

/-- Entries of targets whose keys have no low line have distinct labels. -/
lemma nodup_map_name (hkeys : ∀ t ∈ project.targets.toList, '_' ∉ t.1.toList)
    (h : (resolve project supply options).1.outcome = .ok es) : (es.map Entry.name).Nodup := by
  refine List.pairwise_map.mpr (List.Pairwise.imp_of_mem ?_ (pairwise_target_ne h))
  intro e e' he he' hne hname
  apply hne hname
  rw [← keyPart_name hkeys h he, ← keyPart_name hkeys h he', hname]

end Resolved

/-- **Labels that can be read.** If no key of a project has a low line, the entries of a resolution
have distinct labels, and it warns of nothing. A label without low lines is the key of a target with
one platform, that of the entry. In any other label, the text before the first low line is the key
of the entry's target, and the text behind it is the platform of the entry.

**Proof sketch.** The first low line of a label is the one behind the key (`keyPart_labelOf`,
`platformPart_labelOf`). Entries of different targets have different keys, which their labels tell,
and those of one target have different labels anyway (`pairwise_target_ne`). -/
theorem resolve_labels (project : Project) (supply : Supply) (options : MatchOptions)
    (es : List Entry) (hkeys : ∀ t ∈ project.targets.toList, '_' ∉ t.1.toList)
    (h : (resolve project supply options).1.outcome = .ok es) :
    (es.map Entry.name).Nodup ∧
      (resolve project supply options).1.records.filter Record.isWarning = [] ∧
      ∀ e ∈ es,
        ('_' ∉ e.name.toList → e.name = e.target ∧
          ∃ t, (e.target, t) ∈ project.targets.toList ∧ t.platforms = [e.platform]) ∧
        ('_' ∈ e.name.toList → keyPart e.name = e.target ∧ platformPart e.name = e.platform) := by
  have hnodup := nodup_map_name hkeys h
  refine ⟨hnodup, ?_, fun e he => ?_⟩
  · rw [filter_isWarning_records h]
    exact (collisions_eq_nil_iff es).mpr hnodup
  · obtain ⟨t, ht, htarget, hp, hname⟩ := exists_target_of_mem h he
    constructor
    · intro hno
      rw [hname] at hno
      obtain ⟨hlabel, hone⟩ := labelOf_of_notMem hno
      refine ⟨by rw [hname, hlabel, htarget], t.2, by rw [htarget]; exact ht, ?_⟩
      obtain ⟨q, hq⟩ := List.length_eq_one_iff.mp hone
      rw [hq] at hp ⊢
      rw [List.mem_singleton.mp hp]
    · intro hlow
      rw [hname] at hlow
      refine ⟨keyPart_name hkeys h he, ?_⟩
      rw [hname]
      exact platformPart_labelOf (hkeys t ht) hlow

/-- Platforms that are empty or hold low lines, a key that is empty, and a target with one platform
that holds a low line: the labels are distinct and can be read. -/
theorem resolve_labels_odd_platforms :
    let project : Project := ⟨none, { toList := [("App", ⟨"App", ["_x", "", "x_y"]⟩),
      ("", ⟨"Nameless", ["App_x", "_"]⟩), ("Kit", ⟨"Kit", ["App_x"]⟩)] }⟩
    (∀ t ∈ project.targets.toList, '_' ∉ t.1.toList) ∧
      ∃ es, (resolve project (.list []) {}).1.outcome = .ok es ∧
        es.map Entry.name = ["App__x", "App_", "App_x_y", "_App_x", "__", "Kit"] ∧
        (es.map Entry.name).Nodup ∧
        (resolve project (.list []) {}).1.records.filter Record.isWarning = [] ∧
        (∃ e ∈ es, e.name = "__" ∧ keyPart e.name = e.target ∧ platformPart e.name = e.platform) ∧
        ∃ e ∈ es, e.name = "Kit" ∧ e.name = e.target ∧
          ∃ t, (e.target, t) ∈ project.targets.toList ∧ t.platforms = [e.platform] := by
  intro project
  have hkeys : ∀ t ∈ project.targets.toList, '_' ∉ t.1.toList := by decide
  have hes : (resolve project (.list []) {}).1.outcome =
      .ok [⟨"App__x", "App", "_x", []⟩, ⟨"App_", "App", "", []⟩, ⟨"App_x_y", "App", "x_y", []⟩,
        ⟨"_App_x", "", "App_x", []⟩, ⟨"__", "", "_", []⟩, ⟨"Kit", "Kit", "App_x", []⟩] :=
    eq_ok_of_toOption (by decide +kernel)
  obtain ⟨hnodup, hwarnings, hread⟩ := resolve_labels _ _ _ _ hkeys hes
  refine ⟨hkeys, _, hes, rfl, hnodup, hwarnings, ?_, ?_⟩
  · exact ⟨⟨"__", "", "_", []⟩, by decide, rfl, (hread _ (by decide)).2 (by decide)⟩
  · exact ⟨⟨"Kit", "Kit", "App_x", []⟩, by decide, rfl, (hread _ (by decide)).1 (by decide)⟩

end RunnerAtlas.Resolution
