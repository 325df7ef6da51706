import Mathlib.Data.List.Forall2
import RunnerAtlas.Document.Reading
import RunnerAtlas.Proofs.Outcomes
import RunnerAtlas.Validation.Check

set_option relaxedAutoImplicit false
set_option autoImplicit false

/-!
# The keys of a document's mappings

Entries of a document that repeat a key, written or merged, overwrite each other. So no mapping in
the value of a document has a key twice, however deep it stands.

## Main definitions

* `RunnerAtlas.Value.WellKeyed` — a value whose mappings have distinct keys.

## Main results

* `RunnerAtlas.Document.Ranked.all_eq_ok_iff` — a list of outcomes succeeds exactly if each does.
* `RunnerAtlas.Document.wellKeyed_of_read` — the value of a document has distinct keys.
-/

namespace RunnerAtlas

open Document Outcome

/-- A value in which every mapping, however deep it stands, has distinct keys. -/
inductive Value.WellKeyed : Value → Prop where
  /-- A value without members. -/
  | atom {v : Value} (hentries : v.entries? = none) (hmembers : Validation.members? v = none) :
    WellKeyed v
  /-- A sequence or set. -/
  | members {v : Value} {items : List Value} (h : Validation.members? v = some items)
    (hitems : ∀ item ∈ items, WellKeyed item) : WellKeyed v
  /-- A mapping. -/
  | map {entries : Mapping} (hdistinct : entries.Pairwise fun e f => isSameKey e.1 f.1 = false)
    (hkeys : ∀ e ∈ entries, WellKeyed e.1) (hvalues : ∀ e ∈ entries, WellKeyed e.2) :
    WellKeyed (.map entries)

/-- The keys of a mapping are distinct, and its keys and values have distinct keys in turn. -/
lemma Value.WellKeyed.of_map {entries : Mapping} (h : (Value.map entries).WellKeyed) :
    (entries.Pairwise fun e f => isSameKey e.1 f.1 = false) ∧
      ∀ e ∈ entries, e.1.WellKeyed ∧ e.2.WellKeyed := by
  cases h with
  | atom hentries => cases hentries
  | members h => cases h
  | map hdistinct hkeys hvalues => exact ⟨hdistinct, fun e he => ⟨hkeys e he, hvalues e he⟩⟩

namespace Document

/-! ### Ranked outcomes -/

namespace Ranked

variable {α β : Type}

/-- Two outcomes in order succeed exactly if both do. -/
lemma both_eq_ok_iff (x : Ranked α) (y : Ranked β) (p : α × β) :
    both x y = .ok p ↔ x = .ok p.1 ∧ y = .ok p.2 := by
  obtain ⟨a, b⟩ := p
  cases x <;> cases y <;> simp [both]

/-- A list of outcomes succeeds exactly if each of them does, with their values in order. -/
lemma all_eq_ok_iff (xs : List (Ranked α)) (as : List α) :
    all xs = .ok as ↔ List.Forall₂ (fun x a => x = .ok a) xs as := by
  induction xs generalizing as with
  | nil => simp [all, eq_comm]
  | cons x rest ih =>
    simp only [all, map_eq_ok_iff, both_eq_ok_iff, ih, List.forall₂_cons_left_iff]
    constructor
    · rintro ⟨⟨a, others⟩, ⟨ha, ho⟩, rfl⟩
      exact ⟨a, others, ha, ho, rfl⟩
    · rintro ⟨a, others, ha, ho, rfl⟩
      exact ⟨(a, others), ⟨ha, ho⟩, rfl⟩

/-- An outcome one level further in succeeds as it does. -/
lemma deeper_eq_ok_iff (x : Ranked α) (a : α) : deeper x = .ok a ↔ x = .ok a :=
  mapError_eq_ok_iff _ x a

/-- The members of a list of outcomes that succeeds are values of its outcomes. -/
lemma exists_of_mem_all {xs : List (Ranked α)} {as : List α} (h : all xs = .ok as) {a : α}
    (ha : a ∈ as) : .ok a ∈ xs := by
  have hall := (all_eq_ok_iff xs as).mp h
  clear h
  induction hall with
  | nil => cases ha
  | cons hx _ ih =>
    rcases List.mem_cons.mp ha with rfl | ha
    · simp [hx]
    · exact List.mem_cons_of_mem _ (ih ha)

end Ranked

/-! ### Entries written into a mapping -/

/-- The entries after one was written are those before, one of them with a new value, or those
before and the new one. -/
lemma putEntry_cases (entries : Mapping) (entry : Value × Value) :
    (∃ before key old after, entries = before ++ (key, old) :: after ∧
        putEntry entries entry = before ++ (key, entry.2) :: after) ∨
      ((∀ e ∈ entries, isSameKey e.1 entry.1 = false) ∧
        putEntry entries entry = entries ++ [entry]) := by
  induction entries with
  | nil => exact Or.inr ⟨by simp, rfl⟩
  | cons first rest ih =>
    by_cases hfirst : isSameKey first.1 entry.1 = true
    · exact Or.inl ⟨[], first.1, first.2, rest, rfl, by simp [putEntry, hfirst]⟩
    · rcases ih with ⟨before, key, old, after, rfl, hput⟩ | ⟨hnew, hput⟩
      · exact Or.inl ⟨first :: before, key, old, after, rfl, by simp [putEntry, hfirst, hput]⟩
      · refine Or.inr ⟨List.forall_mem_cons.mpr ⟨by simpa using hfirst, hnew⟩, ?_⟩
        simp [putEntry, hfirst, hput]

/-- Writing an entry with distinct keys inside keeps the keys of a mapping distinct. -/
lemma wellKeyed_putEntry {entries : Mapping} {entry : Value × Value}
    (h : (Value.map entries).WellKeyed) (hkey : entry.1.WellKeyed) (hvalue : entry.2.WellKeyed) :
    (Value.map (putEntry entries entry)).WellKeyed := by
  obtain ⟨hdistinct, hentries⟩ := h.of_map
  suffices hput : ((putEntry entries entry).Pairwise fun e f => isSameKey e.1 f.1 = false) ∧
      ∀ e ∈ putEntry entries entry, e.1.WellKeyed ∧ e.2.WellKeyed from
    .map hput.1 (fun e he => (hput.2 e he).1) fun e he => (hput.2 e he).2
  rcases putEntry_cases entries entry with ⟨before, key, old, after, rfl, hput⟩ | ⟨hnew, hput⟩
  · rw [hput]
    constructor
    · have hkeys : ((before ++ (key, old) :: after).map Prod.fst).Pairwise
          fun v w => isSameKey v w = false := List.pairwise_map.mpr hdistinct
      refine List.pairwise_map.mp (?_ : List.Pairwise (fun v w => isSameKey v w = false) _)
      simpa using hkeys
    · intro e he
      rcases List.mem_append.mp he with he | he
      · exact hentries e (List.mem_append_left _ he)
      · rcases List.mem_cons.mp he with rfl | he
        · exact ⟨(hentries (key, old) (by simp)).1, hvalue⟩
        · exact hentries e (by simp [he])
  · rw [hput]
    constructor
    · rw [List.pairwise_append]
      exact ⟨hdistinct, List.pairwise_singleton _ _, by simpa using hnew⟩
    · exact List.forall_mem_append.mpr ⟨hentries, by simpa using ⟨hkey, hvalue⟩⟩

/-- An entry whose key and value have distinct keys inside, as far as they exist. -/
def Entry.WellKeyed (entry : Entry) : Prop :=
  (∀ v, entry.1 = .ok v → v.WellKeyed) ∧ ∀ v, entry.2 = .ok v → v.WellKeyed

/-- The mapping of entries has distinct keys. -/
lemma wellKeyed_mappingOf {entries : List Entry} {mapping : Mapping}
    (h : mappingOf entries = .ok mapping) (hentries : ∀ e ∈ entries, e.WellKeyed) :
    (Value.map mapping).WellKeyed := by
  obtain ⟨pairs, hpairs, rfl⟩ := (map_eq_ok_iff _ _ _).mp h
  have hwell : ∀ p ∈ pairs, p.1.WellKeyed ∧ p.2.WellKeyed := by
    intro p hp
    obtain ⟨e, he, hboth⟩ := List.mem_map.mp (Ranked.exists_of_mem_all hpairs hp)
    obtain ⟨hkey, hvalue⟩ := (Ranked.both_eq_ok_iff _ _ _).mp hboth
    have hkey' : e.1 = .ok p.1 := by
      unfold checkedKey at hkey
      split at hkey
      · rename_i v hv
        split at hkey
        · cases hkey; exact hv
        · cases hkey
      · cases hkey
      · cases hkey
    exact ⟨(hentries e he).1 _ hkey', (hentries e he).2 _ hvalue⟩
  have hempty : (Value.map []).WellKeyed := .map .nil (by simp) (by simp)
  clear h hpairs
  revert hempty
  generalize ([] : Mapping) = start
  induction pairs generalizing start with
  | nil => exact id
  | cons p rest ih =>
    obtain ⟨hp, hrest⟩ := List.forall_mem_cons.mp hwell
    exact fun hstart => ih hrest _ (wellKeyed_putEntry hstart hp.1 hp.2)

/-! ### Nodes -/

/-- A meaning whose values and entries have distinct keys inside. -/
structure Meaning.WellKeyed (m : Meaning) : Prop where
  /-- Its value. -/
  value : ∀ v, m.value = .ok v → v.WellKeyed
  /-- Its entries where a mapping is needed. -/
  entries : ∀ es, m.entries = some es → ∀ e ∈ es, e.WellKeyed
  /-- The entries that it contributes to a mapping. -/
  merged : ∀ es, m.merged = some es → ∀ e ∈ es, e.WellKeyed
  /-- Its key and value, if it is a mapping of one entry. -/
  pair : ∀ x, m.pair = some x → ∀ p, x = .ok p → p.1.WellKeyed ∧ p.2.WellKeyed

/-- The value of a timestamp has no members. -/
lemma wellKeyed_timestamp {t : Timestamp} {v : Value} (h : t.value = .ok v) : v.WellKeyed := by
  have hmoment : ∀ {hour minute second : List Char}
      {offset : Except Calendar.FieldError (Option Int)},
      (do
        let offset ← offset
        let date ← Calendar.Date.make (numberOf t.year) (numberOf t.month) (numberOf t.day)
        (Calendar.Moment.make date (numberOf hour) (numberOf minute) (numberOf second)
          (microsOf t.fraction) offset).map Value.moment) = .ok v → v.WellKeyed := by
    intro hour minute second offset h
    obtain ⟨_, -, h⟩ := (bind_eq_ok_iff _ _ _).mp h
    obtain ⟨_, -, h⟩ := (bind_eq_ok_iff _ _ _).mp h
    obtain ⟨_, -, rfl⟩ := (map_eq_ok_iff _ _ _).mp h
    exact .atom rfl rfl
  unfold Timestamp.value at h
  dsimp only at h
  split at h
  · obtain ⟨_, -, rfl⟩ := (map_eq_ok_iff _ _ _).mp h
    exact .atom rfl rfl
  · split at h
    · exact hmoment h
    · exact hmoment h

/-- The value of a scalar has no members. -/
lemma wellKeyed_scalarValue {tag : Tag} {text : String} {v : Value}
    (h : scalarValue tag text = .ok v) : v.WellKeyed := by
  have hmap : ∀ {α : Type} {x : Except ScalarFault α} {f : α → Value},
      (∀ a, (f a).WellKeyed) → (x.map f).mapError Fault.scalar = .ok v → v.WellKeyed := by
    intro α x f hf h
    obtain ⟨a, -, rfl⟩ := (map_eq_ok_iff _ _ _).mp ((mapError_eq_ok_iff _ _ _).mp h)
    exact hf a
  unfold scalarValue at h
  split at h
  case h_1 => cases h; exact .atom rfl rfl
  case h_2 => exact hmap (fun _ => .atom rfl rfl) h
  case h_3 => exact hmap (fun _ => .atom rfl rfl) h
  case h_4 => exact hmap (fun _ => .atom rfl rfl) h
  case h_5 =>
    have h := (mapError_eq_ok_iff _ _ _).mp h
    unfold readTimestamp at h
    dsimp only at h
    split at h
    · exact wellKeyed_timestamp ((mapError_eq_ok_iff _ _ _).mp h)
    · cases h
  case h_6 =>
    split at h
    · cases h; exact .atom rfl rfl
    · cases h
  case h_7 => cases h; exact .atom rfl rfl
  case h_8 => cases h

/-- The value of a node has distinct keys if its members and entries have. -/
lemma wellKeyed_nodeValue {tag : Tag} {isScalar : Bool} {text : Option String}
    {items : Option (List Meaning)} {entries : Option (List Entry)} {v : Value}
    (h : nodeValue tag isScalar text items entries = .ok v)
    (hitems : ∀ ms, items = some ms → ∀ m ∈ ms, m.WellKeyed)
    (hentries : ∀ es, entries = some es → ∀ e ∈ es, e.WellKeyed) : v.WellKeyed := by
  unfold nodeValue at h
  split at h
  case h_1 =>
    cases items with
    | none => cases h
    | some ms =>
      obtain ⟨vs, hvs, rfl⟩ := (map_eq_ok_iff _ _ _).mp ((Ranked.deeper_eq_ok_iff _ _).mp h)
      refine .members rfl fun v hv => ?_
      obtain ⟨m, hm, hvalue⟩ := List.mem_map.mp (Ranked.exists_of_mem_all hvs hv)
      exact (hitems ms rfl m hm).value v hvalue
  case h_2 =>
    cases items with
    | none => cases h
    | some ms =>
      obtain ⟨vs, hvs, rfl⟩ := (map_eq_ok_iff _ _ _).mp ((Ranked.deeper_eq_ok_iff _ _).mp h)
      refine .members rfl fun v hv => ?_
      obtain ⟨m, hm, hvalue⟩ := List.mem_map.mp (Ranked.exists_of_mem_all hvs hv)
      split at hvalue
      · rename_i x hx
        obtain ⟨p, hp, rfl⟩ := (map_eq_ok_iff _ _ _).mp hvalue
        obtain ⟨hkey, hval⟩ := (hitems ms rfl m hm).pair x hx p hp
        exact .members rfl (by simpa using ⟨hkey, hval⟩)
      · cases hvalue
  case h_3 =>
    cases entries with
    | none => cases h
    | some es =>
      obtain ⟨mapping, hm, rfl⟩ := (map_eq_ok_iff _ _ _).mp ((Ranked.deeper_eq_ok_iff _ _).mp h)
      exact wellKeyed_mappingOf hm (hentries es rfl)
  case h_4 =>
    cases entries with
    | none => cases h
    | some es =>
      obtain ⟨mapping, hm, rfl⟩ := (map_eq_ok_iff _ _ _).mp ((Ranked.deeper_eq_ok_iff _ _).mp h)
      refine .members rfl fun v hv => ?_
      obtain ⟨e, he, rfl⟩ := List.mem_map.mp hv
      exact ((wellKeyed_mappingOf hm (hentries es rfl)).of_map.2 e he).1
  case h_5 => cases h
  case h_6 => cases h
  case h_7 => cases h
  case h_8 =>
    unfold textValue at h
    split at h
    · cases h
    · split at h
      · cases h
      · exact wellKeyed_scalarValue ((mapError_eq_ok_iff _ _ _).mp h)

/-- The meaning of a scalar has distinct keys. -/
lemma wellKeyed_scalarMeaning (tag : Tag) (text : String) : (scalarMeaning tag text).WellKeyed where
  value v h := by
    have h : nodeValue tag true (some text) none none = .ok v := h
    exact wellKeyed_nodeValue h (by simp) (by simp)
  entries := by simp [scalarMeaning]
  merged := by simp [scalarMeaning]
  pair := by simp [scalarMeaning]

/-- The members of a list that was made member by member come from its members. -/
lemma exists_of_mem_mapM {α β : Type} {f : α → Option β} {as : List α} {bs : List β}
    (h : as.mapM f = some bs) {b : β} (hb : b ∈ bs) : ∃ a ∈ as, f a = some b := by
  induction as generalizing bs with
  | nil => cases h; cases hb
  | cons a rest ih =>
    rw [List.mapM_cons] at h
    obtain ⟨first, hfirst, h⟩ := Option.bind_eq_some_iff.mp h
    obtain ⟨others, hothers, h⟩ := Option.bind_eq_some_iff.mp h
    cases h
    rcases List.mem_cons.mp hb with rfl | hb
    · exact ⟨a, by simp, hfirst⟩
    · obtain ⟨x, hx, hfx⟩ := ih hothers hb
      exact ⟨x, List.mem_cons_of_mem _ hx, hfx⟩

/-- The meaning of a sequence has distinct keys if those of its members have. -/
lemma wellKeyed_sequenceMeaning {items : List Meaning} (tag : Tag)
    (h : ∀ m ∈ items, m.WellKeyed) : (sequenceMeaning tag items).WellKeyed where
  value v hv := by
    have hv : nodeValue tag false none (some items) none = .ok v := hv
    exact wellKeyed_nodeValue hv (fun _ hms => Option.some.inj hms ▸ h) (by simp)
  entries := by simp [sequenceMeaning]
  merged es hes e he := by
    obtain ⟨groups, hgroups, rfl⟩ := Option.map_eq_some_iff.mp hes
    obtain ⟨group, hgroup, hmem⟩ := List.mem_flatten.mp he
    obtain ⟨m, hm, hm'⟩ := exists_of_mem_mapM hgroups (List.mem_reverse.mp hgroup)
    exact (h m hm).entries group hm' e hmem
  pair := by simp [sequenceMeaning]

/-- The entries of a mapping have distinct keys inside if those of its parts have, the merged ones
included. -/
lemma wellKeyed_flattened {parts : List (Meaning × Meaning)} {es : List Entry}
    (h : ∀ p ∈ parts, p.1.WellKeyed ∧ p.2.WellKeyed) (hes : flattened parts = some es) :
    ∀ e ∈ es, e.WellKeyed := by
  obtain ⟨groups, hgroups, hes⟩ := Option.bind_eq_some_iff.mp hes
  cases hes
  intro e he
  rcases List.mem_append.mp he with he | he
  · obtain ⟨group, hgroup, hmem⟩ := List.mem_flatten.mp he
    obtain ⟨p, hp, hmerged⟩ := exists_of_mem_mapM hgroups hgroup
    exact (h p (List.mem_filter.mp hp).1).2.merged group hmerged e hmem
  · obtain ⟨p, hp, rfl⟩ := List.mem_map.mp he
    obtain ⟨hkey, hvalue⟩ := h p (List.mem_filter.mp hp).1
    refine ⟨fun v hv => ?_, hvalue.value⟩
    unfold keyValue at hv
    split at hv
    · split at hv
      · cases hv; exact .atom rfl rfl
      · cases hv
    · exact hkey.value v hv

/-- The meaning of a mapping has distinct keys if those of its parts have. -/
lemma wellKeyed_mappingMeaning {parts : List (Meaning × Meaning)} (tag : Tag)
    (h : ∀ p ∈ parts, p.1.WellKeyed ∧ p.2.WellKeyed) : (mappingMeaning tag parts).WellKeyed where
  value v hv := by
    have hv : nodeValue tag false _ none (flattened parts) = .ok v := hv
    exact wellKeyed_nodeValue hv (by simp) fun _ => wellKeyed_flattened h
  entries _ := wellKeyed_flattened h
  merged _ := wellKeyed_flattened h
  pair x hx p hp := by
    unfold mappingMeaning at hx
    dsimp only at hx
    split at hx
    · cases hx
      obtain ⟨hkey, hvalue⟩ := (Ranked.both_eq_ok_iff _ _ _).mp hp
      obtain ⟨hfirst, hsecond⟩ := h _ (List.mem_singleton_self _)
      exact ⟨hfirst.value _ hkey, hsecond.value _ hvalue⟩
    · cases hx

mutual

/-- The meaning of every node has distinct keys. -/
theorem Node.wellKeyed_meaning : (n : Node) → n.meaning.WellKeyed
  | .scalar tag text => wellKeyed_scalarMeaning tag text
  | .sequence tag items => wellKeyed_sequenceMeaning tag (wellKeyed_meaningsOf items)
  | .mapping tag entries => wellKeyed_mappingMeaning tag (wellKeyed_entryMeanings entries)

/-- The meanings of nodes have distinct keys. -/
theorem wellKeyed_meaningsOf : (ns : List Node) → ∀ m ∈ meaningsOf ns, m.WellKeyed
  | [] => by simp [meaningsOf]
  | n :: rest => List.forall_mem_cons.mpr ⟨n.wellKeyed_meaning, wellKeyed_meaningsOf rest⟩

/-- The meanings of keys and values have distinct keys. -/
theorem wellKeyed_entryMeanings :
    (entries : List (Node × Node)) → ∀ p ∈ entryMeanings entries, p.1.WellKeyed ∧ p.2.WellKeyed
  | [] => by simp [entryMeanings]
  | (key, value) :: rest =>
    List.forall_mem_cons.mpr
      ⟨⟨key.wellKeyed_meaning, value.wellKeyed_meaning⟩, wellKeyed_entryMeanings rest⟩

end

/-- **Distinct keys.** No mapping in the value of a document has a key twice. -/
theorem wellKeyed_of_read {octets : List UInt8} {v : Value} (h : read octets = .ok v) :
    v.WellKeyed := by
  unfold read at h
  split at h
  · unfold readText at h
    split at h
    · obtain ⟨n?, -, h⟩ := (bind_eq_ok_iff _ _ _).mp h
      cases n? with
      | none => cases h; exact .atom rfl rfl
      | some n => exact n.wellKeyed_meaning.value v ((mapError_eq_ok_iff _ _ _).mp h)
    · cases h
  · cases h

end Document

end RunnerAtlas
