import RunnerAtlas.Proofs.Store.Merging
import RunnerAtlas.Proofs.Value.Keys
import RunnerAtlas.Value.Merge

set_option relaxedAutoImplicit false
set_option autoImplicit false

/-!
# Merging is a union that the upper mapping decides

A mapping laid over another one has the keys of the lower one in their order and spelling, and then
the new keys of the upper one in theirs. What the upper one has under a key counts, unless both have
a mapping there, in which case the same holds of these. To lay a mapping over another one a second
time changes nothing.

## Main definitions

* `RunnerAtlas.Mapping.Distinct`, `RunnerAtlas.Value.Keyed` — distinct keys, and distinct keys at
  every level that keys lead to.
* `RunnerAtlas.Mapping.level?` — the mapping to which keys lead.
* `RunnerAtlas.Mapping.IsUnion` — a mapping is the union of two of which one decides.

## Main results

* `RunnerAtlas.Mapping.get?_merge` — what is found in a mapping laid over another one.
* `RunnerAtlas.Mapping.merge_isUnion` — merging is such a union at every level.
-/

namespace RunnerAtlas

namespace Mapping

/-! ### Distinct keys -/

/-- The keys of a mapping are keys, and no two of them are one key. -/
structure Distinct (m : Mapping) : Prop where
  /-- They are keys. -/
  isKey : ∀ e ∈ m, e.1.IsKey
  /-- No two of them are one key. -/
  pairwise : m.Pairwise fun e f => e.1.sameKey f.1 = false

variable {m : Mapping} {key key' v : Value}

/-- The others of distinct keys are distinct. -/
lemma Distinct.tail {e : Value × Value} (h : Distinct (e :: m)) : Distinct m :=
  ⟨fun f hf => h.isKey f (List.mem_cons_of_mem _ hf), (List.pairwise_cons.mp h.pairwise).2⟩

/-- A key finds the value of the first entry if that is under the key, and otherwise what it finds
among the others. -/
lemma get?_cons (e : Value × Value) (m : Mapping) (key : Value) :
    get? (e :: m) key = if e.1.sameKey key then some e.2 else get? m key := by
  unfold get?
  rw [List.find?_cons]
  cases e.1.sameKey key <;> rfl

/-- A key finds nothing exactly if no entry is under it. -/
lemma get?_eq_none_iff : get? m key = none ↔ ∀ e ∈ m, e.1.sameKey key = false := by
  simp [get?]

/-- What a key finds stands under it. -/
lemma exists_mem_of_get? (h : get? m key = some v) : ∃ e ∈ m, e.1.sameKey key = true ∧ e.2 = v := by
  obtain ⟨e, he, rfl⟩ := Option.map_eq_some_iff.mp h
  exact ⟨e, List.mem_of_find?_eq_some he, by simpa using List.find?_some he, rfl⟩

/-- Two spellings of a key find the same. -/
lemma get?_congr (hm : Distinct m) (hkey : key.IsKey) (hkey' : key'.IsKey)
    (h : key.sameKey key' = true) : get? m key = get? m key' := by
  induction m with
  | nil => rfl
  | cons e m ih =>
    have he := hm.isKey e List.mem_cons_self
    have hsame : e.1.sameKey key = e.1.sameKey key' := by
      rw [Bool.eq_iff_iff]
      refine ⟨fun hek => Value.sameKey_trans _ _ _ he hkey hkey' hek h, fun hek => ?_⟩
      rw [Value.sameKey_comm] at h
      exact Value.sameKey_trans _ _ _ he hkey' hkey hek h
    rw [get?_cons, get?_cons, hsame, ih hm.tail]

/-- With distinct keys, the key of an entry finds its value. -/
lemma get?_of_mem (hm : Distinct m) {e : Value × Value} (he : e ∈ m) : get? m e.1 = some e.2 := by
  induction m with
  | nil => cases he
  | cons first m ih =>
    rw [get?_cons]
    rcases List.mem_cons.mp he with rfl | he
    · rw [if_pos (Value.sameKey_self _ (hm.isKey e List.mem_cons_self))]
    · have hne := (List.pairwise_cons.mp hm.pairwise).1 e he
      rw [if_neg (by simp [hne]), ih hm.tail he]

/-! ### Writing -/

/-- A key finds what was written under it, and other keys find what they found before. -/
lemma get?_put (hm : ∀ e ∈ m, e.1.IsKey) (hkey : key.IsKey) (hkey' : key'.IsKey) (v : Value) :
    get? (put m key v) key' = if key.sameKey key' then some v else get? m key' := by
  induction m with
  | nil => rw [put, get?_cons]
  | cons e m ih =>
    obtain ⟨he, hm⟩ := List.forall_mem_cons.mp hm
    rw [put]
    by_cases hek : e.1.sameKey key = true
    · have hsame : e.1.sameKey key' = key.sameKey key' := by
        rw [Bool.eq_iff_iff]
        constructor
        · rw [Value.sameKey_comm] at hek
          exact Value.sameKey_trans _ _ _ hkey he hkey' hek
        · exact Value.sameKey_trans _ _ _ he hkey hkey' hek
      rw [if_pos hek, get?_cons, get?_cons, hsame]
      split_ifs <;> rfl
    · rw [if_neg hek, get?_cons, get?_cons, ih hm]
      by_cases hek' : e.1.sameKey key' = true
      · have hne : ¬ key.sameKey key' = true := by
          intro h
          rw [Value.sameKey_comm] at h
          exact hek (Value.sameKey_trans _ _ _ he hkey' hkey hek' h)
        rw [if_pos hek', if_neg hne, if_pos hek']
      · rw [if_neg hek', if_neg hek']

/-- Writing appends the key, unless it is there. -/
lemma map_fst_put_eq (m : Mapping) (key v : Value) :
    (put m key v).map Prod.fst =
      m.map Prod.fst ++ if (get? m key).isNone then [key] else [] := by
  induction m with
  | nil => rfl
  | cons e m ih =>
    rw [put, get?_cons]
    by_cases hek : e.1.sameKey key = true
    · simp [hek]
    · simp [hek, ih]

/-- To write under a key what it finds changes nothing. -/
lemma put_of_get? (h : get? m key = some v) : put m key v = m := by
  induction m with
  | nil => cases h
  | cons e m ih =>
    rw [get?_cons] at h
    rw [put]
    split_ifs at h ⊢
    · cases h
      rfl
    · rw [ih h]

/-- Writing keeps keys distinct. -/
lemma Distinct.put (hm : Distinct m) (hkey : key.IsKey) (v : Value) : Distinct (put m key v) := by
  have hkeys := map_fst_put_eq m key v
  have hpairs := hm.pairwise
  rw [← List.pairwise_map (f := Prod.fst) (R := fun k l : Value => k.sameKey l = false)] at hpairs
  constructor
  · intro e he
    have hmem : e.1 ∈ (m.put key v).map Prod.fst := List.mem_map_of_mem he
    rw [hkeys, List.mem_append] at hmem
    rcases hmem with hmem | hmem
    · obtain ⟨f, hf, hfe⟩ := List.mem_map.mp hmem
      exact hfe ▸ hm.isKey f hf
    · split_ifs at hmem
      · exact List.mem_singleton.mp hmem ▸ hkey
      · cases hmem
  · rw [← List.pairwise_map (f := Prod.fst) (R := fun k l : Value => k.sameKey l = false), hkeys]
    split_ifs with hnone
    · refine List.pairwise_append.mpr ⟨hpairs, List.pairwise_singleton _ _, fun k hk l hl => ?_⟩
      obtain ⟨e, he, rfl⟩ := List.mem_map.mp hk
      obtain rfl := List.mem_singleton.mp hl
      exact get?_eq_none_iff.mp (Option.isNone_iff_eq_none.mp hnone) e he
    · rwa [List.append_nil]

/-! ### Merging one level -/

variable {updates base : Mapping}

/-- Merging keeps keys distinct. -/
lemma Distinct.merge (hb : Distinct base) (hu : Distinct updates) :
    Distinct (merge updates base) := by
  induction updates generalizing base with
  | nil => rwa [Mapping.merge]
  | cons e rest ih =>
    rw [Mapping.merge]
    exact ih (hb.put (hu.isKey e List.mem_cons_self) _) hu.tail

/-- A key finds in a mapping laid over another one the upper value laid over the lower one, or the
lower one if there is no upper one. -/
theorem get?_merge (hu : Distinct updates) (hb : Distinct base) (hkey : key.IsKey) :
    get? (merge updates base) key =
      match get? updates key with
      | some v => some (mergeValue v (get? base key))
      | none => get? base key := by
  induction updates generalizing base with
  | nil => simp [merge, get?]
  | cons e rest ih =>
    have he := hu.isKey e List.mem_cons_self
    rw [merge, ih hu.tail (hb.put he _), get?_cons, get?_put hb.isKey he hkey]
    by_cases hek : e.1.sameKey key = true
    · -- no other key of the upper mapping is this one, so what was written first stays
      have hnone : get? rest key = none := by
        refine get?_eq_none_iff.mpr fun f hf => ?_
        have hne := (List.pairwise_cons.mp hu.pairwise).1 f hf
        rw [Value.sameKey_comm] at hne
        refine Bool.eq_false_iff.mpr fun hfk => ?_
        rw [Value.sameKey_comm] at hek
        have := Value.sameKey_trans _ _ _ (hu.isKey f (List.mem_cons_of_mem _ hf)) hkey he hfk hek
        simp [hne] at this
      simp [hek, hnone, get?_congr hb he hkey hek]
    · simp [hek]

/-- The keys of the lower mapping come first, in their order and spelling, and then those of the
upper one that are new. -/
theorem map_fst_merge (hu : Distinct updates) (hb : Distinct base) :
    (merge updates base).map Prod.fst =
      base.map Prod.fst ++ (updates.map Prod.fst).filter fun key => (get? base key).isNone := by
  induction updates generalizing base with
  | nil => simp [merge]
  | cons e rest ih =>
    have he := hu.isKey e List.mem_cons_self
    have hothers : ∀ key ∈ rest.map Prod.fst,
        (get? (put base e.1 (mergeValue e.2 (get? base e.1))) key).isNone =
          (get? base key).isNone := by
      intro key hkey
      obtain ⟨f, hf, rfl⟩ := List.mem_map.mp hkey
      have hne := (List.pairwise_cons.mp hu.pairwise).1 f hf
      rw [get?_put hb.isKey he (hu.isKey f (List.mem_cons_of_mem _ hf)), if_neg (by simp [hne])]
    rw [merge, ih hu.tail (hb.put he _), List.filter_congr hothers, map_fst_put_eq, List.map_cons,
      List.filter_cons]
    split_ifs <;> simp

/-- A mapping whose values change nothing where they are laid changes nothing. -/
lemma merge_eq_base (h : ∀ e ∈ updates, ∃ w, get? base e.1 = some w ∧ mergeValue e.2 (some w) = w) :
    merge updates base = base := by
  induction updates with
  | nil => rw [merge]
  | cons e rest ih =>
    obtain ⟨⟨w, hw, hmerge⟩, hrest⟩ := List.forall_mem_cons.mp h
    rw [merge, hw, hmerge, put_of_get? hw, ih hrest]

/-- A mapping laid over one that has none of its keys comes after it. -/
lemma merge_of_absent (hu : Distinct updates) (h : ∀ e ∈ updates, get? base e.1 = none) :
    merge updates base = base ++ updates := by
  induction updates generalizing base with
  | nil => rw [merge, List.append_nil]
  | cons e rest ih =>
    obtain ⟨hfirst, hrest⟩ := List.forall_mem_cons.mp h
    have hput : put base e.1 e.2 = base ++ [e] :=
      put_of_absent _ _ _ (get?_eq_none_iff.mp hfirst)
    have hvalue : mergeValue e.2 none = e.2 := by
      rw [mergeValue]
      simp
    rw [merge, hfirst, hvalue, hput, ih hu.tail, List.append_assoc, List.singleton_append]
    intro f hf
    refine get?_eq_none_iff.mpr (List.forall_mem_append.mpr ⟨get?_eq_none_iff.mp (hrest f hf), ?_⟩)
    simpa using (List.pairwise_cons.mp hu.pairwise).1 f hf

end Mapping

/-! ### Merging at every level -/

/-- A value in which every mapping that keys lead to has distinct keys. -/
inductive Value.Keyed : Value → Prop where
  /-- A value without entries. -/
  | atom {v : Value} (h : ∀ entries, v ≠ .map entries) : Keyed v
  /-- A mapping. -/
  | map {entries : Mapping} (hdistinct : entries.Distinct) (hvalues : ∀ e ∈ entries, Keyed e.2) :
    Keyed (.map entries)

/-- The keys of a mapping are distinct, and those of the mappings under them in turn. -/
lemma Value.Keyed.of_map {entries : Mapping} (h : (Value.map entries).Keyed) :
    entries.Distinct ∧ ∀ e ∈ entries, e.2.Keyed := by
  cases h with
  | atom h => exact absurd rfl (h entries)
  | map hdistinct hvalues => exact ⟨hdistinct, hvalues⟩

namespace Mapping

variable {updates base : Mapping} {key v : Value}

/-- What a key finds has distinct keys in turn. -/
lemma keyed_of_get? {m : Mapping} (hm : (Value.map m).Keyed) (h : get? m key = some v) :
    v.Keyed := by
  obtain ⟨e, he, -, rfl⟩ := exists_mem_of_get? h
  exact hm.of_map.2 e he

/-- A value that is no mapping takes the place of another one, and so does a mapping that of a value
that is none. -/
lemma mergeValue_of_not_both {lower : Option Value}
    (h : ∀ us bs, v = .map us → lower ≠ some (.map bs)) : mergeValue v lower = v := by
  rw [mergeValue]
  intro us bs hv hlower
  exact h us bs hv hlower

/-- A value laid over itself changes nothing. -/
theorem mergeValue_self (hv : v.Keyed) : mergeValue v (some v) = v := by
  induction hv with
  | atom h => exact mergeValue_of_not_both fun us _ hv => absurd hv (h us)
  | @map entries hdistinct _ ih =>
    rw [mergeValue, merge_eq_base fun e he => ⟨e.2, get?_of_mem hdistinct he, ih e he⟩]

/-- A value laid over another one a second time changes nothing. -/
theorem mergeValue_mergeValue (hv : v.Keyed) {lower : Option Value}
    (hlower : ∀ w ∈ lower, w.Keyed) :
    mergeValue v (some (mergeValue v lower)) = mergeValue v lower := by
  induction hv generalizing lower with
  | atom h => rw [mergeValue_of_not_both fun us _ hv => absurd hv (h us),
      mergeValue_of_not_both fun us _ hv => absurd hv (h us)]
  | @map entries hdistinct hvalues ih =>
    by_cases hmap : ∃ bs, lower = some (.map bs)
    · obtain ⟨bs, rfl⟩ := hmap
      have hbs := (hlower _ rfl).of_map
      have hmerge : merge entries (merge entries bs) = merge entries bs := by
        refine merge_eq_base fun e he => ?_
        have hget := get?_merge hdistinct hbs.1 (hdistinct.isKey e he)
        rw [get?_of_mem hdistinct he] at hget
        exact ⟨_, hget, ih e he fun w hw => keyed_of_get? (.map hbs.1 hbs.2) hw⟩
      rw [mergeValue, mergeValue, hmerge]
    · have hsame : mergeValue (.map entries) lower = .map entries :=
        mergeValue_of_not_both fun _ bs _ hbs => hmap ⟨bs, hbs⟩
      rw [hsame, mergeValue_self (.map hdistinct hvalues)]

/-- The mapping to which keys lead. -/
def level? (m : Mapping) : List Value → Option Mapping
  | [] => some m
  | key :: rest =>
    match get? m key with
    | some (.map entries) => level? entries rest
    | _ => none

/-- Where keys lead to mappings in two mappings, they lead to these laid over each other in the one
laid over the other one. -/
theorem level?_merge {path : List Value} (hpath : ∀ key ∈ path, key.IsKey)
    (hu : (Value.map updates).Keyed) (hb : (Value.map base).Keyed) {us bs : Mapping}
    (hus : level? updates path = some us) (hbs : level? base path = some bs) :
    level? (merge updates base) path = some (merge us bs) ∧ us.Distinct ∧ bs.Distinct := by
  induction path generalizing updates base with
  | nil =>
    cases hus
    cases hbs
    exact ⟨rfl, hu.of_map.1, hb.of_map.1⟩
  | cons key rest ih =>
    obtain ⟨hkey, hrest⟩ := List.forall_mem_cons.mp hpath
    rw [level?] at hus hbs
    split at hus
    · rename_i updates' hupper
      split at hbs
      · rename_i base' hlower
        have hget := get?_merge hu.of_map.1 hb.of_map.1 hkey
        rw [hupper, hlower] at hget
        rw [level?, hget]
        exact ih hrest (keyed_of_get? hu hupper) (keyed_of_get? hb hlower) hus hbs
      · cases hbs
    · cases hus

/-! ### The union -/

/-- A mapping is the union of two mappings, of which the upper one decides. -/
structure IsUnion (updates base merged : Mapping) : Prop where
  /-- Its keys are distinct. -/
  distinct : merged.Distinct
  /-- The keys of the lower mapping come first, in their order and spelling, and then those of the
  upper one that are new. -/
  keys : merged.map Prod.fst =
    base.map Prod.fst ++ (updates.map Prod.fst).filter fun key => (get? base key).isNone
  /-- A key that the upper mapping lacks keeps its value. -/
  kept : ∀ key : Value, key.IsKey → get? updates key = none → get? merged key = get? base key
  /-- A key of the upper mapping takes its value whole, unless both have a mapping there. -/
  taken : ∀ key v : Value, key.IsKey → get? updates key = some v →
    (∀ us bs, v = .map us → get? base key ≠ some (.map bs)) → get? merged key = some v

/-- A mapping laid over another one is the union of the two. -/
lemma isUnion_merge (hu : Distinct updates) (hb : Distinct base) :
    IsUnion updates base (merge updates base) where
  distinct := hb.merge hu
  keys := map_fst_merge hu hb
  kept key hkey hnone := by rw [get?_merge hu hb hkey, hnone]
  taken key v hkey hv hboth := by
    rw [get?_merge hu hb hkey, hv]
    exact congrArg some (mergeValue_of_not_both hboth)

/-- **Merging is a union.** At every level that keys lead to in two mappings, the one laid over the
other one is their union, of which the upper one decides. To lay nothing over a mapping, or a
mapping over nothing, over itself or over another one a second time changes nothing. The loop that
does this in a store ends, and leaves both mappings as they were.

**Proof sketch.** One level is `isUnion_merge`, and `level?_merge` leads to it. The laws are those
of values laid over each other (`mergeValue_self`, `mergeValue_mergeValue`), and `Store.ends_merge`
follows the loop. -/
theorem merge_isUnion (hu : (Value.map updates).Keyed) (hb : (Value.map base).Keyed) :
    (∀ (path : List Value) (us bs : Mapping), (∀ key ∈ path, key.IsKey) →
      level? updates path = some us → level? base path = some bs →
      ∃ merged, level? (merge updates base) path = some merged ∧ IsUnion us bs merged) ∧
    merge [] base = base ∧ merge updates [] = updates ∧ merge updates updates = updates ∧
    merge updates (merge updates base) = merge updates base ∧
    ∀ (σ : Store) (u b : Nat), Store.Holds σ (fun _ => True) (.place u) (.map updates) →
      Store.Holds σ (fun _ => True) (.place b) (.map base) →
      ∃ p τ, Store.Run.Ends (fun k => (Store.merge k u b : Store.Run Empty Nat)) σ (.ok p) τ ∧
        Store.Holds τ (fun _ => True) (.place p) (.map (merge updates base)) ∧
        Store.Holds τ (fun _ => True) (.place u) (.map updates) ∧
        Store.Holds τ (fun _ => True) (.place b) (.map base) ∧
        ∀ (q : Nat) (fields : Fields), σ[q]? = some fields → τ[q]? = some fields := by
  refine ⟨fun path us bs hpath hus hbs => ?level, merge.eq_1 base, ?empty, ?self, ?twice,
    fun σ u b hplace hplace' => ?stored⟩
  case level =>
    obtain ⟨hmerged, hdistinct, hdistinct'⟩ := level?_merge hpath hu hb hus hbs
    exact ⟨_, hmerged, isUnion_merge hdistinct hdistinct'⟩
  case empty => exact merge_of_absent hu.of_map.1 fun _ _ => rfl
  case self =>
    have h := mergeValue_self hu
    rw [mergeValue] at h
    exact Value.map.inj h
  case twice =>
    have hbase : ∀ w ∈ some (Value.map base), w.Keyed := by simpa using hb
    have h := mergeValue_mergeValue hu hbase
    rw [mergeValue, mergeValue] at h
    exact Value.map.inj h
  case stored =>
    obtain ⟨p, τ, hrun, hkeeps, hmerged⟩ := Store.ends_merge hplace hplace'
    exact ⟨p, τ, hrun, hmerged.weaken fun _ _ => trivial, hkeeps.holds hplace,
      hkeeps.holds hplace', fun q fields => hkeeps q fields trivial⟩

/-- A section under a truth value that is laid over a section under the number one. -/
private def upperExample : Mapping :=
  [(.bool true, .map [(.str "level", .str "DEBUG"), (.int 2, .null)]), (.str "extra", .list [])]

/-- The mapping below it. -/
private def lowerExample : Mapping :=
  [(.str "name", .str "atlas"), (.int 1, .map [(.str "level", .str "INFO")])]

/-- Both mappings in one store, with the sections in places of their own. -/
private def storeExample : Store :=
  [[(.str "level", .value (.str "DEBUG")), (.int 2, .value .null)],
    [(.str "level", .value (.str "INFO"))],
    [(.bool true, .place 0), (.str "extra", .value (.list []))],
    [(.str "name", .value (.str "atlas")), (.int 1, .place 1)]]

/-- A truth value and the number one are one key, so the two sections are merged under the spelling
of the lower one. -/
theorem merge_isUnion_true_one :
    merge upperExample lowerExample =
      [(.str "name", .str "atlas"),
        (.int 1, .map [(.str "level", .str "DEBUG"), (.int 2, .null)]), (.str "extra", .list [])] ∧
    (∃ merged, level? (merge upperExample lowerExample) [.int 1] = some merged ∧
      IsUnion [(.str "level", .str "DEBUG"), (.int 2, .null)] [(.str "level", .str "INFO")]
        merged) ∧
    merge upperExample (merge upperExample lowerExample) = merge upperExample lowerExample ∧
    ∃ p τ, Store.Run.Ends (fun k => (Store.merge k 2 3 : Store.Run Empty Nat)) storeExample
        (.ok p) τ ∧
      Store.Holds τ (fun _ => True) (.place p) (.map (merge upperExample lowerExample)) ∧
      Store.Holds τ (fun _ => True) (.place 2) (.map upperExample) ∧
      Store.Holds τ (fun _ => True) (.place 3) (.map lowerExample) := by
  have hleaf : ∀ v : Value, v.entries? = none → v.Keyed := fun v hv =>
    .atom fun entries h => by rw [h] at hv; cases hv
  have hupper : (Value.map upperExample).Keyed := by
    refine .map ⟨by simp [upperExample, Value.IsKey], by decide⟩ ?_
    refine List.forall_mem_cons.mpr ⟨.map ⟨by simp [Value.IsKey], by decide⟩ ?_, ?_⟩
    · simpa using ⟨hleaf (.str "DEBUG") rfl, hleaf .null rfl⟩
    · simpa using hleaf (.list []) rfl
  have hlower : (Value.map lowerExample).Keyed := by
    refine .map ⟨by simp [lowerExample, Value.IsKey], by decide⟩ ?_
    refine List.forall_mem_cons.mpr ⟨hleaf (.str "atlas") rfl, ?_⟩
    refine List.forall_mem_singleton.mpr (.map ⟨by simp [Value.IsKey], by decide⟩ ?_)
    simpa using hleaf (.str "INFO") rfl
  have hstored : Store.Holds storeExample (fun _ => True) (.place 2) (.map upperExample) ∧
      Store.Holds storeExample (fun _ => True) (.place 3) (.map lowerExample) := by
    simp [storeExample, upperExample, lowerExample, Store.Holds, Store.HoldsAll, Value.entries?]
  obtain ⟨hlevels, -, -, -, htwice, hstore⟩ := merge_isUnion hupper hlower
  obtain ⟨p, τ, hrun, hmerged, hu, hb, -⟩ := hstore storeExample 2 3 hstored.1 hstored.2
  exact ⟨rfl, hlevels [.int 1] _ _ (by simp [Value.IsKey]) rfl rfl, htwice, p, τ, hrun, hmerged, hu,
    hb⟩

end Mapping

end RunnerAtlas
