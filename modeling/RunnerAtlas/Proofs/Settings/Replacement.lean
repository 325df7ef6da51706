import RunnerAtlas.Proofs.Settings.Layers
import RunnerAtlas.Proofs.Value.Equality

set_option relaxedAutoImplicit false
set_option autoImplicit false

/-!
# Replaced settings

A variable replaces what a document stores for its setting, and its text is read as the kind of
value that it replaces. So what was stored makes no difference to the settings that result, as long
as the text means the same in place of both values. That is so for values of one kind, but a truth
value, a number and a word may all stand for one switch.

## Main definitions

* `RunnerAtlas.Setting.store` — a document with another value for a setting.
* `RunnerAtlas.Setting.Takes` — the settings that a text gives in place of a value.
* `RunnerAtlas.Override.SameKind` — values in whose place every text is read alike.

## Main results

* `RunnerAtlas.Mapping.merge_put` — laying over another mapping what was written into a mapping.
* `RunnerAtlas.Settings.load_replaced` — documents that differ in a setting that is overridden.
* `RunnerAtlas.Settings.load_replaced_fails` — a number in place of a truth value is replaced by
  something else.
-/

namespace RunnerAtlas

open Outcome Validation RunnerAtlas.Text

/-! ### Writing into mappings -/

namespace Mapping

variable {name : String} {key : Value}

/-- A key that is not the text finds what it found before a value was written under the text. -/
lemma get?_put_str_of_ne (m : Mapping) (h : key ≠ .str name) (v : Value) :
    get? (put m (.str name) v) key = get? m key := by
  have hkey : (Value.str name).sameKey key = false := by
    rw [Bool.eq_false_iff, Ne, Value.sameKey_str_iff]
    exact h
  induction m with
  | nil => simp [put, get?, hkey]
  | cons entry rest ih =>
    by_cases hentry : entry.1.sameKey (.str name) = true
    · have hother : entry.1.sameKey key = false := by
        rw [(Value.sameKey_eq_str_iff _ _).mp hentry]
        exact hkey
      simp [put, get?, hentry, hother]
    · simp only [get?] at ih
      by_cases hother : entry.1.sameKey key = true
      · simp [put, get?, hentry, hother]
      · simp [put, get?, hentry, hother, ih]

/-- Of two values written under a text key the second one stays. -/
lemma put_put_self (m : Mapping) (name : String) (v w : Value) :
    put (put m (.str name) v) (.str name) w = put m (.str name) w := by
  induction m with
  | nil => simp [put]
  | cons entry rest ih =>
    by_cases h : entry.1.sameKey (.str name) = true
    · simp [put, h]
    · simp [put, h, ih]

/-- Writing what is there changes nothing. -/
lemma put_of_find? {m : Mapping} {v : Value} (h : find? m name = some v) :
    put m (.str name) v = m := by
  induction m with
  | nil => cases h
  | cons entry rest ih =>
    rw [find?_cons] at h
    by_cases hentry : entry.1.sameKey (.str name) = true
    · simp only [hentry, if_true, Option.some.injEq] at h
      simp [put, hentry, ← h]
    · simp only [hentry] at h
      simp [put, hentry, ih h]

/-- Writing under a text key that is there and under another key may be done in either order. -/
lemma put_put_comm {m : Mapping} (hm : find? m name ≠ none) (hkey : key ≠ .str name)
    (v w : Value) : put (put m key v) (.str name) w = put (put m (.str name) w) key v := by
  induction m with
  | nil => exact absurd rfl hm
  | cons entry rest ih =>
    by_cases hname : entry.1.sameKey (.str name) = true
    · have hother : ¬ entry.1.sameKey key = true := by
        rw [(Value.sameKey_eq_str_iff _ _).mp hname, Value.sameKey_str_iff]
        exact hkey
      simp [put, hname, hother]
    · have hrest : find? rest name ≠ none := by
        simpa [find?_cons, hname] using hm
      by_cases hother : entry.1.sameKey key = true
      · simp [put, hname, hother]
      · simp [put, hname, hother, ih hrest]

/-- What is written under a text key of the lower mapping that the upper one lacks stays. -/
lemma merge_put_base {updates base : Mapping} (hupdates : ∀ e ∈ updates, e.1 ≠ .str name)
    (hbase : find? base name ≠ none) (w : Value) :
    merge updates (put base (.str name) w) = put (merge updates base) (.str name) w := by
  induction updates generalizing base with
  | nil => rfl
  | cons entry rest ih =>
    obtain ⟨key, v⟩ := entry
    obtain ⟨hkey, hrest⟩ := List.forall_mem_cons.mp hupdates
    have hput : find? (put base key (mergeValue v (get? base key))) name ≠ none := by
      rwa [find?_put_of_ne_str base hkey]
    rw [merge, merge, get?_put_str_of_ne base hkey, ← put_put_comm hbase hkey, ih hrest hput]

/-- What is written under a text key of the upper mapping ends up over what the lower one has
there. -/
lemma merge_put {updates : Mapping}
    (hdistinct : updates.Pairwise fun e f => Document.isSameKey e.1 f.1 = false) (base : Mapping)
    (w : Value) :
    merge (put updates (.str name) w) base =
      put (merge updates base) (.str name) (mergeValue w (find? base name)) := by
  induction updates generalizing base with
  | nil => rfl
  | cons entry rest ih =>
    obtain ⟨key, v⟩ := entry
    obtain ⟨hfirst, hrest⟩ := List.pairwise_cons.mp hdistinct
    by_cases hkey : key = .str name
    · subst hkey
      have hlacks : ∀ e ∈ rest, e.1 ≠ .str name := by
        intro e he h
        have := hfirst e he
        rw [h] at this
        simp [Document.isSameKey] at this
      have hput : find? (put base (.str name) (mergeValue v (find? base name))) name ≠ none := by
        simp [find?_put_self]
      have hbase : get? base (.str name) = find? base name := rfl
      simp only [put, merge, Value.sameKey_str_str, decide_true, if_true, hbase]
      rw [← merge_put_base hlacks hput, put_put_self]
    · have hsame : ¬ key.sameKey (.str name) = true :=
        fun h => hkey ((Value.sameKey_eq_str_iff _ _).mp h)
      simp only [put, hsame, merge]
      rw [if_neg (by simp), merge, ih hrest, find?_put_of_ne_str base hkey]

end Mapping

/-! ### Overriding what was written -/

namespace Override

/-- If all values of a mapping can be overridden, so can they after one was written that can. -/
lemma exists_entriesUnder_put {env : Environment} {m result : Mapping} {w new : Value}
    {path name : String} (h : entriesUnder env m (.str path) = .ok result)
    (hw : value env w (joined (.str path) (.str name)) = .ok new) :
    ∃ result', entriesUnder env (Mapping.put m (.str name) w) (.str path) = .ok result' := by
  induction m generalizing result with
  | nil =>
    exact ⟨_, (entriesUnder_cons_eq_ok_iff _ _ _ _ _ _).mpr ⟨new, [], join_str _ _, hw, rfl, rfl⟩⟩
  | cons entry rest ih =>
    obtain ⟨key, old⟩ := entry
    obtain ⟨first, others, hjoin, hfirst, hothers, rfl⟩ :=
      (entriesUnder_cons_eq_ok_iff _ _ _ _ _ _).mp h
    by_cases hkey : key.sameKey (.str name) = true
    · obtain rfl := (Value.sameKey_eq_str_iff _ _).mp hkey
      rw [Mapping.put, if_pos hkey]
      exact ⟨_, (entriesUnder_cons_eq_ok_iff _ _ _ _ _ _).mpr
        ⟨new, others, hjoin, hw, hothers, rfl⟩⟩
    · obtain ⟨result', hresult'⟩ := ih hothers
      rw [Mapping.put, if_neg hkey]
      exact ⟨_, (entriesUnder_cons_eq_ok_iff _ _ _ _ _ _).mpr
        ⟨first, result', hjoin, hfirst, hresult', rfl⟩⟩

/-- Two values in whose place every text is read alike: two truth values, two whole numbers, two
floating-point numbers, or two values that are none of these. -/
def SameKind : Value → Value → Prop
  | .bool _, .bool _ => True
  | .int _, .int _ => True
  | .float _, .float _ => True
  | v, w => v.number? = none ∧ w.number? = none

/-- One value of each kind. -/
def representatives : List Value := [.bool false, .int 0, .float (.zero false), .null]

/-- Two values that are no numbers are of one kind. -/
lemma SameKind.of_number?_eq_none {v w : Value} (hv : v.number? = none) (hw : w.number? = none) :
    SameKind v w := by
  cases v <;> cases w <;> simp_all [SameKind, Value.number?]

/-- Every value is of one kind with a representative. -/
lemma exists_sameKind (v : Value) : ∃ r ∈ representatives, SameKind v r := by
  cases v <;> simp [representatives, SameKind, Value.number?]

lemma SameKind.symm {v w : Value} (h : SameKind v w) : SameKind w v := by
  cases v <;> cases w <;> simp_all [SameKind, Value.number?]

lemma SameKind.trans {u v w : Value} (h : SameKind u v) (h' : SameKind v w) : SameKind u w := by
  cases u <;> cases v <;> simp_all [SameKind, Value.number?] <;> cases w <;> simp_all

/-- In place of values of one kind a text is read alike. -/
lemma SameKind.replaces_iff {v w : Value} (h : SameKind v w) (text : String) (new : Value) :
    Replaces text v new ↔ Replaces text w new := by
  simp only [← converted_eq_ok_iff]
  cases v <;> cases w <;> simp_all [SameKind, converted, Value.number?]

end Override

/-! ### Documents with another value for a setting -/

namespace Setting

/-- A document with another value for a setting. -/
def store (s : Setting) (entries : Mapping) (v : Value) : Mapping :=
  match entries.find? s.group with
  | some (.map fields) =>
    Mapping.put entries (.str s.group) (.map (Mapping.put fields (.str s.name) v))
  | _ => Mapping.put entries (.str s.group) (.map [(.str s.name, v)])

/-- The settings that a text gives in place of a value of a setting. -/
def Takes (s : Setting) (text : String) (v : Value) (c : Settings) : Prop :=
  ∃ new, Override.Replaces text v new ∧ s.Accepts new c

variable {s : Setting} {entries : Mapping} {v w : Value}

/-- In place of values of one kind a text gives the same settings. -/
lemma takes_congr (h : Override.SameKind v w) (text : String) (c : Settings) :
    s.Takes text v c ↔ s.Takes text w c :=
  exists_congr fun new => and_congr_left fun _ => h.replaces_iff text new

/-- A setting is one on matching or one on reporting. -/
lemma group_eq (s : Setting) : s.group = "matching" ∨ s.group = "logging" := by
  cases s <;> simp [group]

/-- Where a value is stored for a setting, it stands in the setting's section. -/
lemma exists_section (h : entries.within? s.group s.name = some v) :
    ∃ fields, entries.find? s.group = some (.map fields) ∧
      Mapping.find? fields s.name = some v := by
  unfold Mapping.within? at h
  split at h
  · exact ⟨_, by assumption, h⟩
  · cases h

/-- What stands at the place of a setting is stored for it. -/
lemma stored_of_within? (h : entries.within? s.group s.name = some v) : s.stored entries = v := by
  obtain ⟨fields, hgroup, hname⟩ := exists_section h
  simp [stored, hgroup, hname]

/-- Another value in place of one is written into the section. -/
lemma store_of_section {fields : Mapping} (h : entries.find? s.group = some (.map fields)) :
    s.store entries v =
      Mapping.put entries (.str s.group) (.map (Mapping.put fields (.str s.name) v)) := by
  simp only [store, h]

/-- The other value stands at the place of the setting. -/
lemma within?_store (s : Setting) (entries : Mapping) (w : Value) :
    (s.store entries w).within? s.group s.name = some w := by
  unfold store
  split <;> simp [Mapping.within?, Mapping.find?_put_self, Mapping.find?_cons]

/-- Storing the first value again gives the document back. -/
lemma store_store (h : entries.within? s.group s.name = some v) (w : Value) :
    s.store (s.store entries w) v = entries := by
  obtain ⟨fields, hgroup, hname⟩ := exists_section h
  rw [store_of_section hgroup, store_of_section (Mapping.find?_put_self _ _ _),
    Mapping.put_put_self, Mapping.put_put_self, Mapping.put_of_find? hname,
    Mapping.put_of_find? hgroup]

/-- Outside of the section of the setting everything is as before. -/
lemma find?_store_of_ne {name : String} (h : name ≠ s.group) (entries : Mapping) (w : Value) :
    Mapping.find? (s.store entries w) name = Mapping.find? entries name := by
  unfold store
  split <;> exact Mapping.find?_put_of_ne _ h _

/-- The other settings are stored as before. -/
lemma stored_store_of_ne {t : Setting} (hne : t ≠ s) (entries : Mapping) (w : Value) :
    t.stored (s.store entries w) = t.stored entries := by
  have hother : t.group = s.group → t.name ≠ s.name := by
    intro hgroup hname
    cases s <;> cases t <;> simp_all [group, name]
  by_cases hsame : t.group = s.group
  · unfold store
    split
    · rename_i fields hgroup
      simp [stored, hsame, hgroup, Mapping.find?_put_self, Mapping.find?_put_of_ne _ (hother hsame)]
    · have hname : Mapping.find? [(.str s.name, w)] t.name = none := by
        simp [Mapping.find?_cons, Ne.symm (hother hsame)]
      simp only [stored, hsame, Mapping.find?_put_self, hname, Option.getD_none]
  · rw [stored, stored, find?_store_of_ne hsame]

/-- Where the section is a mapping, if it is there, so it is afterwards. -/
lemma hasSection_store (h : ∀ t : Setting, t.HasSection entries) (t : Setting) (w : Value) :
    t.HasSection (s.store entries w) := by
  intro v hv
  by_cases hsame : t.group = s.group
  · unfold store at hv
    split at hv <;> rw [hsame, Mapping.find?_put_self] at hv <;> cases hv <;> exact ⟨_, rfl⟩
  · exact h t v (by rwa [find?_store_of_ne hsame] at hv)

end Setting

/-! ### Documents that differ in one setting -/

namespace Settings

open Setting

/-- The section of a document over the defaults, after a value was stored, is the one from before
with the new value. -/
lemma merge_store_standard {entries : Mapping} {s : Setting} {w : Value}
    (hentries : (Value.map entries).WellKeyed) (hsection : s.HasSection entries) :
    ∃ fields,
      Mapping.find? (Mapping.merge entries standard.toMapping) s.group = some (.map fields) ∧
      Mapping.merge (s.store entries w) standard.toMapping =
        Mapping.put (Mapping.merge entries standard.toMapping) (.str s.group)
          (.map (Mapping.put fields (.str s.name) w)) := by
  obtain ⟨hdistinct, hwell⟩ := hentries.of_map
  obtain ⟨base, hbase, hstandard⟩ := find?_standard s
  have hmerged := Mapping.find?_merge hdistinct standard.toMapping s.group
  have hvalue := mergeValue_of_ne_map w (standard_ne_map s)
  cases hgroup : entries.find? s.group with
  | none =>
    rw [hgroup, hbase] at hmerged
    refine ⟨base, hmerged, ?_⟩
    rw [store]
    simp only [hgroup]
    rw [Mapping.merge_put hdistinct, hbase, Mapping.mergeValue, Mapping.merge, Mapping.merge,
      ← Mapping.find?, hstandard, hvalue]
  | some v =>
    obtain ⟨fields, rfl⟩ := hsection v hgroup
    have hfields := (hwell _ (Mapping.mem_of_find? hgroup)).2.of_map.1
    rw [hgroup, hbase] at hmerged
    refine ⟨Mapping.merge fields base, hmerged, ?_⟩
    rw [store_of_section hgroup, Mapping.merge_put hdistinct, hbase, Mapping.mergeValue,
      Mapping.merge_put hfields, hstandard, hvalue]

/-- If all variables can override a document over the defaults, so can they after a value that can
be overridden was stored. -/
lemma exists_overridden_store {env : Environment} {entries m : Mapping} {s : Setting}
    {w new : Value} (hentries : (Value.map entries).WellKeyed) (hsection : s.HasSection entries)
    (hm : Override.mapping env (Mapping.merge entries standard.toMapping) "" = .ok m)
    (hw : Override.value env w s.path = .ok new) :
    ∃ m', Override.mapping env (Mapping.merge (s.store entries w) standard.toMapping) "" =
      .ok m' := by
  obtain ⟨fields, hfields, hstore⟩ := merge_store_standard (w := w) hentries hsection
  have hover := Override.find?_entriesUnder hm s.group
  rw [hfields] at hover
  obtain ⟨_, -, hover⟩ := hover
  obtain ⟨result, hresult, -⟩ := (map_eq_ok_iff _ _ _).mp hover
  obtain ⟨result', hresult'⟩ := Override.exists_entriesUnder_put hresult hw
  rw [hstore]
  refine Override.exists_entriesUnder_put hm (?_ : Override.value env _ _ = .ok (.map result'))
  exact (map_eq_ok_iff _ _ _).mpr ⟨result', hresult', rfl⟩

/-- If a text means the same in place of two values, the settings that the variable with the text
gives for a document with one of them are also those for the document with the other. -/
lemma layered_store {env : Environment} {entries : Mapping} {s : Setting} {v w : Value}
    {text : String} {c : Settings} (hentries : (Value.map entries).WellKeyed)
    (hentries' : (Value.map (s.store entries w)).WellKeyed)
    (h : entries.within? s.group s.name = some v)
    (hplaces : ∀ t : Setting, t.HasPlace (s.store entries w))
    (hvariable : env.lookup s.variableName = some text)
    (htext : s.Takes text v c → s.Takes text w c) (hc : layered env entries = .ok c) :
    layered env (s.store entries w) = .ok c := by
  obtain ⟨⟨m, hm⟩, hall⟩ := (layered_eq_ok_iff hentries env c).mp hc
  have htakes : s.Takes text v c := by
    obtain ⟨-, new, hforce, haccepts⟩ := hall s
    rw [InForce, hvariable, stored_of_within? h] at hforce
    exact ⟨new, hforce, haccepts⟩
  obtain ⟨new, hnew, haccepts⟩ := htext htakes
  have hstored := stored_of_within? (s.within?_store entries w)
  refine (layered_eq_ok_iff hentries' env c).mpr ⟨?_, fun t => ⟨hplaces t, ?_⟩⟩
  · have hw : ∀ fields, w ≠ .map fields := hstored ▸ (hplaces s).2
    refine exists_overridden_store hentries (hall s).1.1 hm
      ((s.value_path_eq_ok_iff env hw new).mpr ?_)
    rwa [hvariable]
  · by_cases ht : t = s
    · subst ht
      refine ⟨new, ?_, haccepts⟩
      rwa [InForce, hvariable, hstored]
    · obtain ⟨-, u, hforce, hu⟩ := hall t
      refine ⟨u, ?_, hu⟩
      rwa [InForce, stored_store_of_ne ht]

/-- Where settings are loaded, the document has a place for each of them. -/
lemma hasPlace_of_load {files : Files} {env : Environment} {path? : Option String}
    {entries : Mapping} (hdocument : IsDocument files path? entries)
    (h : ∃ c, load files env path? = .ok c) (s : Setting) : s.HasPlace entries := by
  obtain ⟨c, h⟩ := h
  rw [hdocument.load_eq env] at h
  exact (((layered_eq_ok_iff hdocument.wellKeyed env c).mp h).2 s).1

/-- A switch takes a text in place of a value as being on exactly if the text is read as a value
that is true. -/
lemma takes_on_iff {s : Setting} (hs : s.group = "matching") (text : String) (v : Value) :
    s.Takes text v ⟨⟨true, true⟩, .standard⟩ ↔
      ((Override.converted v text).toOption.bind fun new => (truth new).toOption) = some true := by
  have haccepts : ∀ new, s.Accepts new ⟨⟨true, true⟩, .standard⟩ ↔ truth new = .ok true := by
    cases s <;> simp_all [group, Accepts]
  simp only [Takes, haccepts, ← Override.converted_eq_ok_iff]
  cases Override.converted v text with
  | error e => simp [Except.toOption]
  | ok new => cases h : truth new <;> simp [Except.toOption, h]

/-- Values in whose place every text turns a switch on or off alike are of one kind.

**Proof sketch.** Each value is of one kind with a representative, and three texts tell the four
representatives apart: `true` is no number, `on` is a word that turns a switch on but does not stand
for truth in place of a truth value, and `1.0` is a number but not a whole one. -/
lemma sameKind_of_takes {s : Setting} {v w : Value} (hs : s.group = "matching")
    (h : ∀ text c, s.Takes text v c ↔ s.Takes text w c) : Override.SameKind v w := by
  obtain ⟨r, hr, hvr⟩ := Override.exists_sameKind v
  obtain ⟨r', hr', hwr⟩ := Override.exists_sameKind w
  have hapart : ∀ r ∈ Override.representatives, ∀ r' ∈ Override.representatives,
      (∀ text ∈ ["true", "on", "1.0"],
        ((Override.converted r text).toOption.bind fun new => (truth new).toOption) = some true ↔
          ((Override.converted r' text).toOption.bind fun new => (truth new).toOption) =
            some true) → r = r' := by
    decide +kernel
  obtain rfl : r = r' := by
    refine hapart r hr r' hr' fun text _ => ?_
    rw [← takes_on_iff hs, ← takes_on_iff hs]
    rw [← takes_congr hvr, ← takes_congr hwr]
    exact h text _
  exact hvr.trans hwr.symm

/-- A value that is accepted for a setting on reporting is no number. -/
lemma number?_of_accepts {s : Setting} {v : Value} {c : Settings} (hs : s.group = "logging")
    (h : s.Accepts v c) : v.number? = none := by
  cases v with
  | bool b => cases s <;> simp [group] at hs <;> cases h
  | int n => cases s <;> simp [group] at hs <;> cases h
  | float x => cases s <;> simp [group] at hs <;> cases h
  | _ => rfl

/-- What is stored for a setting on reporting is no number where settings are loaded while its
variable is not set. -/
lemma number?_stored_of_load {files : Files} {env : Environment} {path? : Option String}
    {entries : Mapping} {s : Setting} (hs : s.group = "logging")
    (hunset : env.lookup s.variableName = none) (hdocument : IsDocument files path? entries)
    (h : ∃ c, load files env path? = .ok c) : (s.stored entries).number? = none := by
  obtain ⟨c, h⟩ := h
  rw [hdocument.load_eq env] at h
  obtain ⟨-, u, hforce, hu⟩ := ((layered_eq_ok_iff hdocument.wellKeyed env c).mp h).2 s
  rw [InForce, hunset] at hforce
  exact hforce ▸ number?_of_accepts hs hu

/-- **Replaced settings.** Take two documents that differ only in what they store for a setting,
from both of which settings are loaded while the setting's variable is not set. With the variable
set to a text that means the same in place of both values, both give the same settings, or both give
none. Every text means the same in place of both values exactly if they are of one kind, or if the
setting is one on reporting.

**Proof sketch.** The text is read in place of both values, and all else is the same in both
documents (`layered_store`, and for the way back `store_store`). -/
theorem load_replaced {files files' : Files} {env : Environment} {path? path?' : Option String}
    {entries : Mapping} {s : Setting} {v w : Value} (hdocument : IsDocument files path? entries)
    (hdocument' : IsDocument files' path?' (s.store entries w))
    (hstored : entries.within? s.group s.name = some v)
    (hunset : env.lookup s.variableName = none) (hload : ∃ c, load files env path? = .ok c)
    (hload' : ∃ c, load files' env path?' = .ok c) :
    (∀ text, (∀ c, s.Takes text v c ↔ s.Takes text w c) →
      ∀ c, load files ((s.variableName, text) :: env) path? = .ok c ↔
        load files' ((s.variableName, text) :: env) path?' = .ok c) ∧
      ((∀ text c, s.Takes text v c ↔ s.Takes text w c) ↔
        Override.SameKind v w ∨ s.group = "logging") := by
  have hplaces := hasPlace_of_load hdocument hload
  have hplaces' := hasPlace_of_load hdocument' hload'
  refine ⟨fun text htext c => ?_, ⟨fun htexts => ?_, fun hkind text c => ?_⟩⟩
  · have hvariable : List.lookup s.variableName ((s.variableName, text) :: env) = some text := by
      simp
    rw [hdocument.load_eq, hdocument'.load_eq]
    refine ⟨layered_store hdocument.wellKeyed hdocument'.wellKeyed hstored hplaces' hvariable
      (htext c).mp, fun h => ?_⟩
    have hback := store_store hstored w
    have := layered_store (w := v) hdocument'.wellKeyed (by rw [hback]; exact hdocument.wellKeyed)
      (s.within?_store entries w) (by rw [hback]; exact hplaces) hvariable (htext c).mpr h
    rwa [hback] at this
  · rcases s.group_eq with hmatching | hlogging
    · exact .inl (sameKind_of_takes hmatching htexts)
    · exact .inr hlogging
  · refine takes_congr ?_ text c
    rcases hkind with hkind | hlogging
    · exact hkind
    · refine .of_number?_eq_none ?_ ?_
      · rw [← stored_of_within? hstored]
        exact number?_stored_of_load hlogging hunset hdocument hload
      · rw [← stored_of_within? (s.within?_store entries w)]
        exact number?_stored_of_load hlogging hunset hdocument' hload'

/-- Two words for a switch, one for on and one for off, of which the variable replaces either. -/
theorem load_replaced_words :
    let files : Files := fun _ => .file (Utf8.encode "matching: \x7bliteral: t\x7d".toList) "work"
    let files' : Files := fun _ => .file (Utf8.encode "matching: \x7bliteral: f\x7d".toList) "work"
    let env : Environment := [("TARGETRUNNERS_LOGGING__FORMAT", "json")]
    (∃ c, load files env (some "settings.yml") = .ok c) ∧
      (∃ c, load files' env (some "settings.yml") = .ok c) ∧
      ∀ text c,
        load files ((Setting.literal.variableName, text) :: env) (some "settings.yml") = .ok c ↔
          load files' ((Setting.literal.variableName, text) :: env) (some "settings.yml") =
            .ok c := by
  intro files files' env
  have hdocument : IsDocument files (some "settings.yml")
      [(.str "matching", .map [(.str "literal", .str "t")])] :=
    .mapping rfl (eq_ok_of_toOption (by decide +kernel))
  have hdocument' : IsDocument files' (some "settings.yml")
      (Setting.literal.store [(.str "matching", .map [(.str "literal", .str "t")])] (.str "f")) :=
    .mapping rfl (eq_ok_of_toOption (by decide +kernel))
  have hload : load files env (some "settings.yml") = .ok ⟨⟨false, true⟩, ⟨"INFO", "json"⟩⟩ :=
    eq_ok_of_toOption (by decide +kernel)
  have hload' : load files' env (some "settings.yml") = .ok ⟨⟨false, false⟩, ⟨"INFO", "json"⟩⟩ :=
    eq_ok_of_toOption (by decide +kernel)
  obtain ⟨hsame, hkinds⟩ := load_replaced (s := .literal) (v := .str "t") hdocument hdocument' rfl
    rfl ⟨_, hload⟩ ⟨_, hload'⟩
  exact ⟨⟨_, hload⟩, ⟨_, hload'⟩, fun text => hsame text (hkinds.mpr (.inl ⟨rfl, rfl⟩) text)⟩

/-- A switch that is a truth value in one document and a number in another one: without the variable
both give the same settings, and with the word `true` in it only the first one gives any. -/
theorem load_replaced_fails :
    let files : Files := fun _ =>
      .file (Utf8.encode "matching: \x7bignore_case: true\x7d".toList) "work"
    let files' : Files := fun _ =>
      .file (Utf8.encode "matching: \x7bignore_case: 1\x7d".toList) "work"
    let env : Environment := [(Setting.ignoreCase.variableName, "true")]
    let path? := some "settings.yml"
    let entries : Mapping := [(.str "matching", .map [(.str "ignore_case", .bool true)])]
    let c : Settings := ⟨⟨true, false⟩, .standard⟩
    IsDocument files path? entries ∧
      IsDocument files' path? (Setting.ignoreCase.store entries (.int 1)) ∧
      load files [] path? = .ok c ∧ load files' [] path? = .ok c ∧
      load files env path? = .ok c ∧ ∀ c', load files' env path? ≠ .ok c' := by
  intro files files' env path? entries c
  refine ⟨.mapping rfl (eq_ok_of_toOption (by decide +kernel)),
    .mapping rfl (eq_ok_of_toOption (by decide +kernel)), eq_ok_of_toOption (by decide +kernel),
    eq_ok_of_toOption (by decide +kernel), eq_ok_of_toOption (by decide +kernel), fun c' h => ?_⟩
  have hnone : (load files' env path?).toOption = none := by decide +kernel
  simp [h, Except.toOption] at hnone

end Settings

end RunnerAtlas
