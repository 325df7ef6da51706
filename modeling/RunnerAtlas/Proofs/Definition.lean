import Mathlib.Data.List.Dedup
import RunnerAtlas.Project.Definition
import RunnerAtlas.Proofs.Checks

set_option relaxedAutoImplicit false
set_option autoImplicit false

/-!
# The targets of a definition

The targets of a definition are put one after the other under the texts of their keys. Keys that
differ may have the same text; then the last entry decides what stands under it, and the others are
lost. Where the texts are distinct every entry has its target, in order.

## Main definitions

* `RunnerAtlas.Definition.Declares` — the platforms that an entry declares.
* `RunnerAtlas.Definition.IsTargetOf` — the target that an entry defines.

## Main results

* `RunnerAtlas.Definition.target_eq_ok_iff` — which entries define targets.
* `RunnerAtlas.Definition.targetsInto_eq_append` — the targets of entries with distinct texts.
* `RunnerAtlas.Definition.name_eq_key_of_mem_project` — the names of a project's targets.
* `RunnerAtlas.Definition.project_targets` — the targets of a project.
-/

namespace RunnerAtlas

open Outcome Validation

/-! ### Targets under keys -/

namespace NamedTargets

/-- A target under a new key comes last. -/
lemma putInto_of_notMem {key : String} (target : Target) {ts : List (String × Target)}
    (h : key ∉ ts.map Prod.fst) : putInto key target ts = ts ++ [(key, target)] := by
  induction ts with
  | nil => rfl
  | cons entry rest ih =>
    rw [List.map_cons, List.mem_cons, not_or] at h
    rw [putInto, if_neg (Ne.symm h.1), ih h.2, List.cons_append]

/-- The targets after one was put under a key are among those before and that one. -/
lemma mem_putInto {key : String} {target : Target} {ts : List (String × Target)}
    {t : String × Target} (h : t ∈ putInto key target ts) : t ∈ ts ∨ t = (key, target) := by
  induction ts with
  | nil => exact Or.inr (List.mem_singleton.mp h)
  | cons entry rest ih =>
    rw [putInto] at h
    split at h
    · exact (List.mem_cons.mp h).symm.imp_left (List.mem_cons_of_mem _)
    · rcases List.mem_cons.mp h with rfl | h
      · exact Or.inl (by simp)
      · exact (ih h).imp_left (List.mem_cons_of_mem _)

/-- The keys after a target was put under one are those before and that one. -/
lemma mem_keys_put_iff (targets : NamedTargets) (key k : String) (target : Target) :
    k ∈ (targets.put key target).toList.map Prod.fst ↔
      k ∈ targets.toList.map Prod.fst ∨ k = key := by
  refine ⟨mem_keys_putInto, fun h => ?_⟩
  show k ∈ (putInto key target targets.toList).map Prod.fst
  generalize targets.toList = ts at h
  induction ts with
  | nil => simpa [putInto] using h
  | cons entry rest ih =>
    rw [List.map_cons, List.mem_cons, or_assoc] at h
    rw [putInto]
    split
    · rename_i heq
      rcases h with rfl | h | rfl
      · simp [heq]
      · exact List.mem_cons_of_mem _ h
      · simp
    · rcases h with rfl | h
      · simp
      · exact List.mem_cons_of_mem _ (ih h)

/-- What is found under a key after a target was put under one. -/
lemma find?_put (targets : NamedTargets) (key k : String) (target : Target) :
    (targets.put key target).find? k = if k = key then some target else targets.find? k := by
  show ((putInto key target targets.toList).find? _).map _ = if _ then _ else
    (targets.toList.find? _).map _
  induction targets.toList with
  | nil =>
    by_cases h : k = key
    · simp [putInto, h]
    · simp [putInto, h, Ne.symm h]
  | cons entry rest ih =>
    by_cases hentry : entry.1 = key
    · by_cases h : k = key
      · simp [putInto, hentry, h]
      · simp [putInto, hentry, h, Ne.symm h]
    · by_cases h : entry.1 = k
      · have hk : k ≠ key := h ▸ hentry
        simp [putInto, hk, h]
      · simp [putInto, hentry, h, ih]

end NamedTargets

namespace Definition

/-! ### One entry -/

/-- An entry declares platforms: none if its value counts as absent, one text by itself, or a
sequence of texts. -/
inductive Declares (spec : Mapping) : List String → Prop where
  /-- It declares no platform. -/
  | none (h : (Mapping.findD spec "platform").isEmpty = true) : Declares spec []
  /-- It declares one platform by itself. -/
  | one {p : String} (h : Mapping.findD spec "platform" = .str p) (hne : p ≠ "") :
    Declares spec [p]
  /-- It declares the members of a sequence. -/
  | several {items : List Value} {platforms : List String}
    (h : members? (Mapping.findD spec "platform") = some items) (hne : items ≠ [])
    (hp : List.Forall₂ Value.Spells items platforms) : Declares spec platforms

/-- An entry defines a target: it is named by the text of the key and has the platforms that the
entry declares. -/
def IsTargetOf (key spec : Value) (t : Target) : Prop :=
  ∃ entries, spec = .map entries ∧ t.name = key.display ∧ Declares entries t.platforms

/-- The platforms of a target are read from one text or from a sequence of texts. -/
lemma platformsOf_eq_ok_iff (v : Value) (platforms : List String) :
    Target.platformsOf v = .ok platforms ↔ (∃ p, v = .str p ∧ platforms = [p]) ∨
      ∃ items, members? v = some items ∧ List.Forall₂ Value.Spells items platforms := by
  unfold Target.platformsOf
  split
  · simp [members?, eq_comm]
  · rename_i h
    simp only [sequence_eq_ok_iff, text_eq_ok_iff]
    refine ⟨Or.inr, ?_⟩
    rintro (⟨p, rfl, -⟩ | hseq)
    · exact absurd rfl (h p)
    · exact hseq

/-- The members of a sequence without members count as absent, and only those. -/
lemma isEmpty_iff_of_members? {v : Value} {items : List Value} (h : members? v = some items) :
    v.isEmpty = true ↔ items = [] := by
  cases v <;> cases h <;> simp [Value.isEmpty]

/-- The platforms that an entry gives are accepted as those that it declares. -/
lemma platformsOf_platformOf_iff (spec : Mapping) (platforms : List String) :
    Target.platformsOf (platformOf spec) = .ok platforms ↔ Declares spec platforms := by
  by_cases hempty : (Mapping.findD spec "platform").isEmpty = true
  · have hnone : platformOf spec = .list [] := if_pos hempty
    rw [hnone, platformsOf_eq_ok_iff]
    constructor
    · rintro (⟨p, h, -⟩ | ⟨items, h, hp⟩)
      · cases h
      · cases h
        rw [List.forall₂_nil_left_iff.mp hp]
        exact .none hempty
    · intro h
      cases h with
      | none => exact Or.inr ⟨[], rfl, .nil⟩
      | one h hne => simp [h, Value.isEmpty, hne] at hempty
      | several h hne => exact absurd ((isEmpty_iff_of_members? h).mp hempty) hne
  · have hsome : platformOf spec = Mapping.findD spec "platform" := if_neg hempty
    rw [hsome, platformsOf_eq_ok_iff]
    constructor
    · rintro (⟨p, h, rfl⟩ | ⟨items, h, hp⟩)
      · refine .one h ?_
        rintro rfl
        exact hempty (by rw [h]; rfl)
      · refine .several h ?_ hp
        rintro rfl
        exact hempty ((isEmpty_iff_of_members? h).mpr rfl)
    · intro h
      cases h with
      | none h => exact absurd h hempty
      | one h => exact Or.inl ⟨_, h, rfl⟩
      | several h _ hp => exact Or.inr ⟨_, h, hp⟩

/-- The entry of a target is accepted exactly as the target that it defines, and only under a key
whose text there is and has a character. -/
theorem target_eq_ok_iff (key spec : Value) (t : Target) :
    target key spec = .ok t ↔
      IsTargetOf key spec t ∧ key.display ≠ "" ∧ key.isShowable = true := by
  by_cases hshow : key.isShowable = true
  swap
  · simp [target, hshow]
  cases spec with
  | map spec =>
    have hname : ∀ name, nonemptyText (.str key.display) = .ok name ↔
        name = key.display ∧ key.display ≠ "" := by
      intro name
      rw [nonemptyText_eq_ok_iff]
      constructor
      · rintro ⟨h, hne⟩
        cases h
        exact ⟨rfl, hne⟩
      · rintro ⟨rfl, hne⟩
        exact ⟨.str _, hne⟩
    have hplatform : Validation.optional
        [(.str "name", .str key.display), (.str "platform", platformOf spec)] "platform"
          Target.platformsOf [] =
        (Target.platformsOf (platformOf spec)).under (.field "platform") := rfl
    simp only [target, hshow, if_true, mapError_eq_ok_iff, Target.ofRecord, report_eq_ok_iff,
      Target.check, Checked.ap_eq_ok_iff, required_eq_ok_iff, hplatform, under_eq_ok_iff,
      platformsOf_platformOf_iff, IsTargetOf, and_true]
    constructor
    · rintro ⟨_, platforms, ⟨_, name, h, ⟨v, hv, hn⟩, rfl⟩, hp, rfl⟩
      cases h; cases hv
      obtain ⟨rfl, hne⟩ := (hname name).mp hn
      exact ⟨⟨spec, rfl, rfl, hp⟩, hne⟩
    · obtain ⟨name, platforms⟩ := t
      rintro ⟨⟨_, h, rfl, hp⟩, hne⟩
      cases h
      exact ⟨_, platforms, ⟨_, _, rfl, ⟨_, rfl, (hname _).mpr ⟨rfl, hne⟩⟩, rfl⟩, hp, rfl⟩
  | _ => simp [target, hshow, IsTargetOf]

/-! ### All entries -/

/-- The texts of the keys of entries. -/
def texts (raw : Mapping) : List String := raw.map fun entry => entry.1.display

/-- The text of the first key goes before those of the others. -/
lemma texts_cons (entry : Value × Value) (rest : Mapping) :
    texts (entry :: rest) = entry.1.display :: texts rest := rfl

/-- One entry is put under the text of its key before the others. -/
lemma targetsInto_cons_eq_ok_iff (targets result : NamedTargets) (key spec : Value)
    (rest : Mapping) :
    targetsInto targets ((key, spec) :: rest) = .ok result ↔
      ∃ t, target key spec = .ok t ∧ targetsInto (targets.put key.display t) rest = .ok result := by
  rw [targetsInto, bind_eq_ok_iff]

/-- The keys after entries were put are those before and the texts of the entries. -/
lemma mem_keys_targetsInto_iff {targets result : NamedTargets} {raw : Mapping}
    (h : targetsInto targets raw = .ok result) (k : String) :
    k ∈ result.toList.map Prod.fst ↔ k ∈ targets.toList.map Prod.fst ∨ k ∈ texts raw := by
  induction raw generalizing targets with
  | nil => cases h; simp [texts]
  | cons entry rest ih =>
    obtain ⟨t, -, hrest⟩ := (targetsInto_cons_eq_ok_iff _ _ _ _ _).mp h
    rw [ih hrest, NamedTargets.mem_keys_put_iff, texts_cons, List.mem_cons, or_assoc]

/-- Under a text of no entry nothing changes. -/
lemma find?_targetsInto_of_notMem {targets result : NamedTargets} {raw : Mapping}
    (h : targetsInto targets raw = .ok result) {k : String} (hk : k ∉ texts raw) :
    result.find? k = targets.find? k := by
  induction raw generalizing targets with
  | nil => cases h; rfl
  | cons entry rest ih =>
    obtain ⟨t, -, hrest⟩ := (targetsInto_cons_eq_ok_iff _ _ _ _ _).mp h
    rw [texts_cons, List.mem_cons, not_or] at hk
    rw [ih hrest hk.2, NamedTargets.find?_put, if_neg hk.1]

/-- The last entry with a text decides what is found under it. -/
lemma find?_targetsInto_last {targets result : NamedTargets} {before after : Mapping}
    {key spec : Value} (h : targetsInto targets (before ++ (key, spec) :: after) = .ok result)
    (hlast : key.display ∉ texts after) :
    ∃ t, result.find? key.display = some t ∧ IsTargetOf key spec t := by
  induction before generalizing targets with
  | nil =>
    obtain ⟨t, ht, hrest⟩ := (targetsInto_cons_eq_ok_iff _ _ _ _ _).mp h
    refine ⟨t, ?_, ((target_eq_ok_iff key spec t).mp ht).1⟩
    rw [find?_targetsInto_of_notMem hrest hlast, NamedTargets.find?_put, if_pos rfl]
  | cons entry rest ih =>
    obtain ⟨t, -, hrest⟩ := (targetsInto_cons_eq_ok_iff _ _ _ _ _).mp h
    exact ih hrest

/-- Where each target is named by its key, this stays so when entries are put. -/
lemma name_eq_key_targetsInto {targets result : NamedTargets} {raw : Mapping}
    (h : targetsInto targets raw = .ok result) (hnames : ∀ t ∈ targets.toList, t.2.name = t.1) :
    ∀ t ∈ result.toList, t.2.name = t.1 := by
  induction raw generalizing targets with
  | nil => cases h; exact hnames
  | cons entry rest ih =>
    obtain ⟨t, ht, hrest⟩ := (targetsInto_cons_eq_ok_iff _ _ _ _ _).mp h
    obtain ⟨⟨_, -, hname, -⟩, -⟩ := (target_eq_ok_iff _ _ _).mp ht
    refine ih hrest fun s hs => ?_
    rcases NamedTargets.mem_putInto hs with hs | rfl
    · exact hnames s hs
    · exact hname

/-- Entries whose texts are new and distinct come after the targets before them, in order. -/
lemma targetsInto_eq_append {targets result : NamedTargets} {raw : Mapping}
    (h : targetsInto targets raw = .ok result)
    (hd : (targets.toList.map Prod.fst ++ texts raw).Nodup) :
    ∃ ts, result.toList = targets.toList ++ ts ∧
      List.Forall₂ (fun entry t => t.1 = entry.1.display ∧ IsTargetOf entry.1 entry.2 t.2)
        raw ts := by
  induction raw generalizing targets with
  | nil => cases h; exact ⟨[], by simp, .nil⟩
  | cons entry rest ih =>
    obtain ⟨t, ht, hrest⟩ := (targetsInto_cons_eq_ok_iff _ _ _ _ _).mp h
    have hnew : entry.1.display ∉ targets.toList.map Prod.fst := fun hmem =>
      (List.nodup_append.mp hd).2.2 _ hmem _ (by simp [texts_cons]) rfl
    have hput : (targets.put entry.1.display t).toList =
        targets.toList ++ [(entry.1.display, t)] := NamedTargets.putInto_of_notMem t hnew
    have hd' : ((targets.put entry.1.display t).toList.map Prod.fst ++ texts rest).Nodup := by
      rw [hput, List.map_append, List.append_assoc]
      exact hd
    obtain ⟨ts, hts, hforall⟩ := ih hrest hd'
    refine ⟨(entry.1.display, t) :: ts, ?_, .cons ⟨rfl, ?_⟩ hforall⟩
    · rw [hts, hput, List.append_assoc]
      rfl
    · exact ((target_eq_ok_iff _ _ _).mp ht).1

/-- Entries put one after the other have as many targets as distinct texts. -/
lemma length_targetsInto {result : NamedTargets} {raw : Mapping}
    (h : targetsInto .empty raw = .ok result) :
    result.toList.length = (texts raw).dedup.length := by
  have hperm : (result.toList.map Prod.fst).Perm (texts raw).dedup := by
    refine (List.perm_ext_iff_of_nodup result.nodup_keys (List.nodup_dedup _)).mpr fun k => ?_
    rw [mem_keys_targetsInto_iff h, List.mem_dedup]
    simp [NamedTargets.empty]
  simpa using hperm.length_eq

/-- A definition is accepted exactly if it is a mapping with a mapping of targets that are all
accepted, and with a name that is. -/
lemma project_eq_ok_iff (data : Value) (fallback : Option String) (p : Project) :
    project data fallback = .ok p ↔
      ∃ entries raw, data = .map entries ∧ Mapping.find? entries "targets" = some (.map raw) ∧
        targetsInto .empty raw = .ok p.targets ∧ nameOf entries fallback = .ok p.name := by
  unfold project
  split
  case h_2 h =>
    refine iff_of_false (by simp) ?_
    rintro ⟨entries, _, hdata, -⟩
    exact h entries hdata
  rename_i entries
  split
  case h_2 h =>
    refine iff_of_false (by simp) ?_
    rintro ⟨_, raw, hdata, hraw, -⟩
    cases hdata
    exact h raw hraw
  rename_i raw hraw
  rw [bind_eq_ok_iff]
  constructor
  · rintro ⟨targets, ht, h⟩
    obtain ⟨name, hname, h⟩ := (bind_eq_ok_iff _ _ _).mp h
    cases h
    exact ⟨entries, raw, rfl, hraw, ht, hname⟩
  · rintro ⟨_, _, hdata, hraw', ht, hname⟩
    cases hdata
    cases hraw.symm.trans hraw'
    exact ⟨p.targets, ht, (bind_eq_ok_iff _ _ _).mpr ⟨p.name, hname, rfl⟩⟩

/-- Each target of a project is named by its key. -/
theorem name_eq_key_of_mem_project {data : Value} {fallback : Option String} {p : Project}
    (h : project data fallback = .ok p) : ∀ t ∈ p.targets.toList, t.2.name = t.1 := by
  obtain ⟨entries, raw, -, -, htargets, -⟩ := (project_eq_ok_iff _ _ _).mp h
  exact name_eq_key_targetsInto htargets (by simp [NamedTargets.empty])

/-- A list has as many distinct members as members exactly if no member is repeated. -/
lemma length_dedup_eq_iff (l : List String) : l.dedup.length = l.length ↔ l.Nodup :=
  ⟨fun h => List.dedup_eq_self.mp ((List.dedup_sublist l).eq_of_length h),
    fun h => by rw [List.dedup_eq_self.mpr h]⟩

/-- **The targets of a project.** A definition that is accepted has a mapping of targets. The
project has one target for each distinct text among the keys, which is one for each entry exactly if
the texts are distinct. The last entry with a text decides which target stands under it. If the
texts are distinct, each entry has its target under its text, in the order of the mapping.

**Proof sketch.** The entries are put one after the other. A text keeps its key from the first time
on (`mem_keys_targetsInto_iff`), and the last entry overwrites what stood there before
(`find?_targetsInto_last`). Under distinct texts nothing is overwritten
(`targetsInto_eq_append`). -/
theorem project_targets {data : Value} {fallback : Option String} {p : Project}
    (h : project data fallback = .ok p) :
    ∃ entries raw, data = .map entries ∧ Mapping.find? entries "targets" = some (.map raw) ∧
      p.targets.toList.length = (texts raw).dedup.length ∧
      (p.targets.toList.length = raw.length ↔ (texts raw).Nodup) ∧
      (∀ before key spec after, raw = before ++ (key, spec) :: after →
        key.display ∉ texts after →
        ∃ t, p.targets.find? key.display = some t ∧ IsTargetOf key spec t) ∧
      ((texts raw).Nodup → List.Forall₂ (fun entry t => t.1 = entry.1.display ∧
        IsTargetOf entry.1 entry.2 t.2) raw p.targets.toList) := by
  obtain ⟨entries, raw, rfl, hraw, htargets, -⟩ := (project_eq_ok_iff _ _ _).mp h
  have hlength := length_targetsInto htargets
  refine ⟨entries, raw, rfl, hraw, hlength, ?_, ?_, ?_⟩
  · rw [hlength, ← length_dedup_eq_iff]
    simp [texts]
  · rintro before key spec after rfl hlast
    exact find?_targetsInto_last htargets hlast
  · intro hd
    obtain ⟨ts, hts, hforall⟩ := targetsInto_eq_append htargets hd
    rw [show p.targets.toList = ts from hts]
    exact hforall

/-- A number, a truth value and the absent value as keys have texts that no other key has, so that
each of the three entries has its target. -/
theorem project_targets_mixed_keys :
    let raw : Mapping := [(.int 2, .map [(.str "platform", .str "iOS")]),
      (.bool true, .map [(.str "platform", .list [.str "macOS", .bytes [0x74, 0x76]])]),
      (.null, .map [])]
    ∃ p, project (.map [(.str "targets", .map raw)]) none = .ok p ∧
      p.targets.toList.length = 3 ∧ ∃ t, p.targets.find? "True" = some t ∧
        IsTargetOf (.bool true)
          (.map [(.str "platform", .list [.str "macOS", .bytes [0x74, 0x76]])]) t := by
  intro raw
  have h : project (.map [(.str "targets", .map raw)]) none =
      .ok ⟨none, { toList := [("2", ⟨"2", ["iOS"]⟩), ("True", ⟨"True", ["macOS", "tv"]⟩),
        ("None", ⟨"None", []⟩)] }⟩ := rfl
  obtain ⟨entries, raw', hdata, hraw, -, hlength, hlast, -⟩ := project_targets h
  cases hdata
  cases hraw
  refine ⟨_, h, hlength.mpr (by decide), ?_⟩
  exact hlast [(.int 2, .map [(.str "platform", .str "iOS")])] _ _ [(.null, .map [])] rfl
    (by decide)

/-- A number and the text that shows it are different keys with one text. Of the two entries the
first is lost. -/
theorem project_drops_target :
    project (.map [(.str "targets", .map [(.int 1, .map [(.str "platform", .str "iOS")]),
        (.str "1", .map [(.str "platform", .str "macOS")])])]) none =
      .ok ⟨none, { toList := [("1", ⟨"1", ["macOS"]⟩)] }⟩ := rfl

end Definition

end RunnerAtlas
