import RunnerAtlas.Proofs.Document.Keys
import RunnerAtlas.Proofs.Settings.Sections

set_option relaxedAutoImplicit false
set_option autoImplicit false

/-!
# The layers of the settings

What a document stores for a setting goes before the default, and the text of the setting's variable
goes before both. Nothing else in the document or in the environment takes part in the settings that
result.

## Main definitions

* `RunnerAtlas.Override.Replaces` — what a text that replaces a value is read as.
* `RunnerAtlas.Setting.stored` — what a document stores for a setting, or the default.
* `RunnerAtlas.Setting.InForce` — the value of a setting under an environment.
* `RunnerAtlas.Settings.IsDocument` — the document of a file.

## Main results

* `RunnerAtlas.Mapping.find?_merge` — what is found in a mapping laid over another one.
* `RunnerAtlas.Override.find?_entriesUnder` — what is found in a mapping that was overridden.
* `RunnerAtlas.Settings.layered_eq_ok_iff` — which settings the three layers give.
* `RunnerAtlas.Settings.load_layers` — the settings of a file and an environment.
-/

namespace RunnerAtlas

open Outcome Validation RunnerAtlas.Text

/-! ### A mapping laid over another one -/

namespace Mapping

/-- A text key finds in a mapping with distinct keys that was laid over another one the upper value
laid over the lower one, or the lower one if there is no upper one. -/
lemma find?_merge {updates : Mapping}
    (hdistinct : updates.Pairwise fun e f => Document.isSameKey e.1 f.1 = false) (base : Mapping)
    (name : String) :
    find? (merge updates base) name =
      match find? updates name with
      | some v => some (mergeValue v (find? base name))
      | none => find? base name := by
  induction updates generalizing base with
  | nil => simp [merge]
  | cons entry rest ih =>
    obtain ⟨key, v⟩ := entry
    obtain ⟨hfirst, hrest⟩ := List.pairwise_cons.mp hdistinct
    rw [merge, ih hrest, find?_cons]
    by_cases hkey : key = .str name
    · -- the others do not have the key, so what was written first stays
      subst hkey
      have hnone : find? rest name = none := by
        have hall : ∀ e ∈ rest, ¬ e.1.sameKey (.str name) = true := by
          intro e he hsame
          have := hfirst e he
          rw [(Value.sameKey_eq_str_iff _ _).mp hsame] at this
          simp [Document.isSameKey] at this
        simpa [find?, get?, List.find?_eq_none] using hall
      have hbase : get? base (.str name) = find? base name := rfl
      simp [hnone, find?_put_self, hbase]
    · have hsame : ¬ key.sameKey (.str name) = true :=
        fun h => hkey ((Value.sameKey_eq_str_iff _ _).mp h)
      simp [hsame, find?_put_of_ne_str base hkey]

end Mapping

/-- What a text key finds stands under it. -/
lemma Mapping.mem_of_find? {entries : Mapping} {name : String} {v : Value}
    (h : find? entries name = some v) : (.str name, v) ∈ entries := by
  obtain ⟨⟨key, w⟩, hfound, rfl⟩ := Option.map_eq_some_iff.mp h
  have hkey : key.sameKey (.str name) = true := by simpa using List.find?_some hfound
  obtain rfl := (Value.sameKey_eq_str_iff _ _).mp hkey
  exact List.mem_of_find?_eq_some hfound

/-! ### Values overridden by the environment -/

namespace Override

/-- What a text that replaces a value is read as: a truth value, a whole number or a floating-point
number if it replaces one, and itself otherwise. -/
inductive Replaces (text : String) : Value → Value → Prop where
  /-- A truth value is true exactly for one of three words. -/
  | truth (b : Bool) :
    Replaces text (.bool b)
      (.bool (decide (LetterCase.plainLowerText text ∈ ["true", "1", "yes"])))
  /-- A whole number. -/
  | whole (m : Int) {n : Int} (h : Decimal.readInt 10 text = .ok n) :
    Replaces text (.int m) (.int n)
  /-- A floating-point number. -/
  | decimal (x : Binary64) {y : Binary64} (h : Decimal.readFloat text = .ok y) :
    Replaces text (.float x) (.float y)
  /-- The text itself. -/
  | text {v : Value} (h : v.number? = none) : Replaces text v (.str text)

/-- A text is converted to what it is read as in place of a value. -/
lemma converted_eq_ok_iff (old new : Value) (text : String) :
    converted old text = .ok new ↔ Replaces text old new := by
  constructor
  · intro h
    cases old with
    | bool b =>
      cases h
      have : trueWords.contains (LetterCase.plainLowerText text) =
          decide (LetterCase.plainLowerText text ∈ ["true", "1", "yes"]) := by
        simp [trueWords]
      rw [this]
      exact .truth b
    | int m =>
      obtain ⟨n, hn, rfl⟩ := (map_eq_ok_iff _ _ _).mp ((mapError_eq_ok_iff _ _ _).mp h)
      exact .whole m hn
    | float x =>
      obtain ⟨y, hy, rfl⟩ := (map_eq_ok_iff _ _ _).mp ((mapError_eq_ok_iff _ _ _).mp h)
      exact .decimal x hy
    | _ => cases h; exact .text rfl
  · intro h
    cases h with
    | truth b => simp [converted, trueWords]
    | whole m h => simp [converted, h, Except.map, Except.mapError]
    | decimal x h => simp [converted, h, Except.map, Except.mapError]
    | text h => cases old <;> simp_all [converted, Value.number?]

/-- A value that is overridden becomes a mapping exactly if it is one, whose entries are
overridden. -/
lemma value_eq_ok_map_iff (env : Environment) (v path : Value) (result : Mapping) :
    value env v path = .ok (.map result) ↔
      ∃ entries, v = .map entries ∧ entriesUnder env entries path = .ok result := by
  cases v with
  | map entries => simp [value, map_eq_ok_iff]
  | _ =>
    refine iff_of_false (fun h => ?_) (by simp)
    obtain ⟨name, -, h⟩ := (bind_eq_ok_iff _ _ _).mp h
    split at h
    · cases (converted_eq_ok_iff _ _ _).mp h
    · cases h

/-- A path and a key are joined exactly if the path contributes nothing or both have texts. -/
lemma join_eq_ok_iff (path key below : Value) :
    join path key = .ok below ↔
      (path.isEmpty || path.isShowable && key.isShowable) = true ∧ below = joined path key := by
  unfold join
  split_ifs with h <;> simp [h, eq_comm]

/-- Texts are joined. -/
@[simp] lemma join_str (path name : String) :
    join (.str path) (.str name) = .ok (joined (.str path) (.str name)) :=
  (join_eq_ok_iff _ _ _).mpr ⟨by simp [Value.isShowable], rfl⟩

/-- The first entry of a mapping is overridden below its path, and then the others are. -/
lemma entriesUnder_cons_eq_ok_iff (env : Environment) (key old : Value) (rest : Mapping)
    (path : Value) (result : Mapping) :
    entriesUnder env ((key, old) :: rest) path = .ok result ↔
      ∃ new others, join path key = .ok (joined path key) ∧
        value env old (joined path key) = .ok new ∧ entriesUnder env rest path = .ok others ∧
        result = (key, new) :: others := by
  rw [entriesUnder]
  constructor
  · intro h
    obtain ⟨_, hbelow, h⟩ := (bind_eq_ok_iff _ _ _).mp h
    obtain ⟨-, rfl⟩ := (join_eq_ok_iff _ _ _).mp hbelow
    obtain ⟨new, hnew, h⟩ := (bind_eq_ok_iff _ _ _).mp h
    obtain ⟨others, hothers, h⟩ := (bind_eq_ok_iff _ _ _).mp h
    cases h
    exact ⟨new, others, hbelow, hnew, hothers, rfl⟩
  · rintro ⟨new, others, hbelow, hnew, hothers, rfl⟩
    rw [hbelow, hothers]
    show value env old (joined path key) >>= _ = _
    rw [hnew]
    rfl

/-- A text key finds in a mapping that was overridden the value overridden under its path. -/
lemma find?_entriesUnder {env : Environment} {entries result : Mapping} {path : Value}
    (h : entriesUnder env entries path = .ok result) (name : String) :
    match Mapping.find? entries name with
    | some v => ∃ w, Mapping.find? result name = some w ∧
        value env v (joined path (.str name)) = .ok w
    | none => Mapping.find? result name = none := by
  induction entries generalizing result with
  | nil => cases h; simp
  | cons entry rest ih =>
    obtain ⟨key, old⟩ := entry
    obtain ⟨new, others, -, hnew, ho, rfl⟩ := (entriesUnder_cons_eq_ok_iff _ _ _ _ _ _).mp h
    have ih := ih ho
    rw [Mapping.find?_cons, Mapping.find?_cons]
    by_cases hkey : key.sameKey (.str name) = true
    · obtain rfl := (Value.sameKey_eq_str_iff _ _).mp hkey
      simpa using hnew
    · simpa [hkey] using ih

end Override

/-! ### The settings under an environment -/

namespace Setting

/-- What a document stores for a setting, or the default if it stores nothing. -/
def stored (s : Setting) (entries : Mapping) : Value :=
  match entries.find? s.group with
  | some (.map fields) => (Mapping.find? fields s.name).getD s.standard
  | _ => s.standard

/-- The value of a setting under an environment: what is stored, or what the text of its variable
is read as in place of it. -/
def InForce (s : Setting) (env : Environment) (entries : Mapping) (v : Value) : Prop :=
  match env.lookup s.variableName with
  | some text => Override.Replaces text (s.stored entries) v
  | none => v = s.stored entries

/-- A setting has one value under an environment. -/
lemma InForce.unique {s : Setting} {env : Environment} {entries : Mapping} {v w : Value}
    (hv : s.InForce env entries v) (hw : s.InForce env entries w) : v = w := by
  unfold InForce at hv hw
  split at hv
  · rename_i text htext
    rw [htext] at hw
    have hv := (Override.converted_eq_ok_iff _ _ _).mpr hv
    have hw := (Override.converted_eq_ok_iff _ _ _).mpr hw
    exact Except.ok.inj (hv.symm.trans hw)
  · rename_i hnone
    rw [hnone] at hw
    rw [hv, hw]

/-- The path of a setting. -/
def path (s : Setting) : Value :=
  Override.joined (Override.joined (.str "") (.str s.group)) (.str s.name)

/-- The path of a setting leads to its variable. -/
lemma variableName_path (s : Setting) : Override.variableName s.path = .ok s.variableName := by
  cases s <;> rfl

/-- A value that is no mapping is overridden at the path of a setting as the setting's variable
says. -/
lemma value_path_eq_ok_iff (s : Setting) (env : Environment) {old : Value}
    (hold : ∀ entries, old ≠ .map entries) (new : Value) :
    Override.value env old s.path = .ok new ↔
      match env.lookup s.variableName with
      | some text => Override.Replaces text old new
      | none => new = old := by
  have hleaf : Override.value env old s.path = Override.leaf env s.path old := by
    cases old with
    | map entries => exact absurd rfl (hold entries)
    | _ => rfl
  have hname : Override.leaf env s.path old = match env.lookup s.variableName with
      | some text => Override.converted old text
      | none => .ok old := by
    rw [Override.leaf, variableName_path]
    rfl
  rw [hleaf, hname]
  cases env.lookup s.variableName with
  | none => simp [eq_comm]
  | some text => exact Override.converted_eq_ok_iff old new text

end Setting

/-! ### The three layers -/

namespace Settings

/-- The defaults have a section for each setting, in which its default stands. -/
lemma find?_standard (s : Setting) : ∃ base, Mapping.find? standard.toMapping s.group =
    some (.map base) ∧ Mapping.find? base s.name = some s.standard := by
  cases s <;> exact ⟨_, rfl, rfl⟩

/-- The default of a setting is no mapping. -/
lemma standard_ne_map (s : Setting) (entries : Mapping) : s.standard ≠ .map entries := by
  cases s <;> exact nofun

/-- A value over one that is no mapping takes its place. -/
lemma mergeValue_of_ne_map (v : Value) {w : Value} (hw : ∀ entries, w ≠ .map entries) :
    Mapping.mergeValue v (some w) = v := by
  cases w with
  | map entries => exact absurd rfl (hw entries)
  | _ => cases v <;> rfl

/-- A document over the defaults has a mapping as a section exactly if it has none there itself or a
mapping. In this case the setting has what the document stores, or the default. -/
lemma within?_merge {entries : Mapping} (hentries : (Value.map entries).WellKeyed) (s : Setting) :
    (s.HasSection (Mapping.merge entries standard.toMapping) ↔ s.HasSection entries) ∧
      (s.HasSection entries →
        Mapping.within? (Mapping.merge entries standard.toMapping) s.group s.name =
          some (s.stored entries)) := by
  obtain ⟨hdistinct, hwell⟩ := hentries.of_map
  obtain ⟨base, hbase, hstandard⟩ := find?_standard s
  have hmerged := Mapping.find?_merge hdistinct standard.toMapping s.group
  rw [hbase] at hmerged
  unfold Setting.HasSection Mapping.within? Setting.stored
  cases hgroup : Mapping.find? entries s.group with
  | none =>
    rw [hgroup] at hmerged
    simp [hmerged, hstandard]
  | some v =>
    rw [hgroup] at hmerged
    cases v with
    | map fields =>
      have hfields : (Value.map fields).WellKeyed := (hwell _ (Mapping.mem_of_find? hgroup)).2
      have hname := Mapping.find?_merge hfields.of_map.1 base s.name
      rw [hstandard] at hname
      simp only [hmerged, Mapping.mergeValue, hname]
      cases Mapping.find? fields s.name with
      | none => simp
      | some w => simp [mergeValue_of_ne_map w (standard_ne_map s)]
    | _ => simp [hmerged, Mapping.mergeValue]

/-- Overriding keeps sections that are mappings, and overrides what stands at the place of a setting
in one. -/
lemma within?_overridden {env : Environment} {m result : Mapping}
    (h : Override.mapping env m "" = .ok result) (s : Setting) :
    (s.HasSection result ↔ s.HasSection m) ∧ ∀ v, Mapping.within? m s.group s.name = some v →
      ∃ w, Mapping.within? result s.group s.name = some w ∧
        Override.value env v s.path = .ok w := by
  have hgroup := Override.find?_entriesUnder h s.group
  unfold Setting.HasSection Mapping.within?
  cases hm : Mapping.find? m s.group with
  | none =>
    rw [hm] at hgroup
    simp [hgroup]
  | some old =>
    rw [hm] at hgroup
    obtain ⟨new, hnew, hvalue⟩ := hgroup
    have hmap : (∃ fields, new = .map fields) ↔ ∃ fields, old = .map fields := by
      constructor
      · rintro ⟨fields, rfl⟩
        obtain ⟨entries, hold, -⟩ := (Override.value_eq_ok_map_iff _ _ _ _).mp hvalue
        exact ⟨entries, hold⟩
      · rintro ⟨fields, rfl⟩
        obtain ⟨entries, -, hentries⟩ := (map_eq_ok_iff _ _ _).mp hvalue
        exact ⟨entries, hentries.symm⟩
    refine ⟨by simpa [hnew] using hmap, fun v hv => ?_⟩
    cases old with
    | map fields =>
      obtain ⟨fields', hfields', rfl⟩ := (map_eq_ok_iff _ _ _).mp hvalue
      have hv : Mapping.find? fields s.name = some v := hv
      have hname := Override.find?_entriesUnder hfields' s.name
      rw [hv] at hname
      simpa [hnew, Setting.path] using hname
    | _ => cases hv

end Settings

/-- A document has a place for a setting: the section, where it is there, is a mapping, and what is
stored for the setting is none. -/
def Setting.HasPlace (s : Setting) (entries : Mapping) : Prop :=
  s.HasSection entries ∧ ∀ fields, s.stored entries ≠ .map fields

namespace Settings

/-- **The three layers.** A document and an environment give settings exactly if no variable fails
to override a value, the document has a place for each setting, and the value of each setting under
the environment is validated as what the settings say. -/
theorem layered_eq_ok_iff {entries : Mapping} (hentries : (Value.map entries).WellKeyed)
    (env : Environment) (c : Settings) :
    layered env entries = .ok c ↔
      (∃ m, Override.mapping env (Mapping.merge entries standard.toMapping) "" = .ok m) ∧
      ∀ s : Setting, s.HasPlace entries ∧ ∃ v, s.InForce env entries v ∧ s.Accepts v c := by
  have hstored := within?_merge hentries
  simp only [layered, bind_eq_ok_iff, mapError_eq_ok_iff, ofValue_eq_ok_iff]
  constructor
  · rintro ⟨m, hm, hall⟩
    refine ⟨⟨m, hm⟩, fun s => ?_⟩
    obtain ⟨hsection, haccepts⟩ := hall s
    obtain ⟨hsame, hover⟩ := within?_overridden hm s
    have hsection := (hstored s).1.mp (hsame.mp hsection)
    obtain ⟨w, hw, hvalue⟩ := hover _ ((hstored s).2 hsection)
    rw [hw, Option.getD_some] at haccepts
    have hne : ∀ fields, s.stored entries ≠ .map fields := by
      intro fields hfields
      rw [hfields] at hvalue
      obtain ⟨fields', -, rfl⟩ := (map_eq_ok_iff _ _ _).mp hvalue
      exact s.not_accepts_map _ _ haccepts
    exact ⟨⟨hsection, hne⟩, w, (s.value_path_eq_ok_iff env hne w).mp hvalue, haccepts⟩
  · rintro ⟨⟨m, hm⟩, hall⟩
    refine ⟨m, hm, fun s => ?_⟩
    obtain ⟨⟨hsection, hne⟩, v, hforce, haccepts⟩ := hall s
    obtain ⟨hsame, hover⟩ := within?_overridden hm s
    obtain ⟨w, hw, hvalue⟩ := hover _ ((hstored s).2 hsection)
    have hv := (s.value_path_eq_ok_iff env hne v).mpr hforce
    obtain rfl : v = w := Except.ok.inj (hv.symm.trans hvalue)
    exact ⟨hsame.mpr ((hstored s).1.mpr hsection), by simpa [hw] using haccepts⟩

/-! ### The settings of a file -/

/-- The entries of a document at a path, of which there are none if there is no file, or if the
document counts as absent. -/
inductive IsDocument (files : Files) : Option String → Mapping → Prop where
  /-- There is no file. -/
  | none : IsDocument files none []
  /-- The file holds a document that counts as absent. -/
  | empty {path folder : String} {octets : List UInt8} {data : Value}
    (hfile : files (.ofText path) = .file octets folder) (hdata : Document.read octets = .ok data)
    (hempty : data.isEmpty = true) : IsDocument files (some path) []
  /-- The file holds a mapping. -/
  | mapping {path folder : String} {octets : List UInt8} {entries : Mapping}
    (hfile : files (.ofText path) = .file octets folder)
    (hdata : Document.read octets = .ok (.map entries)) : IsDocument files (some path) entries

/-- The entries of a document have distinct keys. -/
lemma IsDocument.wellKeyed {files : Files} {path? : Option String} {entries : Mapping}
    (h : IsDocument files path? entries) : (Value.map entries).WellKeyed := by
  cases h with
  | none => exact .map .nil (by simp) (by simp)
  | empty => exact .map .nil (by simp) (by simp)
  | mapping _ hdata => exact Document.wellKeyed_of_read hdata

/-- The settings of a document are loaded from its entries. -/
lemma IsDocument.load_eq {files : Files} {path? : Option String} {entries : Mapping}
    (h : IsDocument files path? entries) (env : Environment) :
    load files env path? = layered env entries := by
  have hload : ∀ {path folder : String} {octets : List UInt8} {data : Value},
      files (.ofText path) = .file octets folder → Document.read octets = .ok data →
        load files env (some path) = ofDocument env (.ofText path) data := by
    intro path folder octets data hfile hdata
    have hdocument : Loading.document files (.ofText path) = .ok (data, folder) := by
      simp only [Loading.document, hfile, hdata]
    simp only [load, hdocument]
    rfl
  cases h with
  | none => rfl
  | empty hfile hdata hempty =>
    rw [hload hfile hdata]
    unfold ofDocument
    rw [if_pos hempty]
  | @mapping _ _ _ entries hfile hdata =>
    rw [hload hfile hdata]
    cases entries with
    | nil => rfl
    | cons entry rest => rfl

/-- Settings are loaded from a document. -/
lemma exists_isDocument {files : Files} {env : Environment} {path? : Option String} {c : Settings}
    (h : load files env path? = .ok c) : ∃ entries, IsDocument files path? entries := by
  cases path? with
  | none => exact ⟨[], .none⟩
  | some path =>
    obtain ⟨⟨data, folder⟩, hdocument, h⟩ := (bind_eq_ok_iff _ _ _).mp h
    have hdocument := (mapError_eq_ok_iff _ _ _).mp hdocument
    unfold Loading.document at hdocument
    split at hdocument
    · cases hdocument
    · cases hdocument
    · rename_i octets folder' hfile
      split at hdocument
      · rename_i data' hdata
        cases hdocument
        by_cases hempty : data.isEmpty = true
        · exact ⟨[], .empty hfile hdata hempty⟩
        · dsimp only at h
          unfold ofDocument at h
          rw [if_neg hempty] at h
          cases data with
          | map entries => exact ⟨entries, .mapping hfile hdata⟩
          | _ => cases h
      · cases hdocument

/-- **The settings of a file.** Settings that are loaded come from a document. The value of each
setting is what the document stores for it, or the default if it stores nothing, unless the
setting's variable is set: then it is what the text of the variable is read as in place of that. The
settings say what these four values are validated as. Any other document and environment from which
settings are loaded give the same ones, if they agree on what is stored for the four settings and on
their four variables.

**Proof sketch.** The document is laid over the defaults (`within?_merge`) and overridden
(`within?_overridden`) without losing a place, and only the four places are validated
(`ofValue_eq_ok_iff`), which is what `layered_eq_ok_iff` says. -/
theorem load_layers {files : Files} {env : Environment} {path? : Option String} {c : Settings}
    (h : load files env path? = .ok c) :
    ∃ entries, IsDocument files path? entries ∧
      (∀ s : Setting, ∃ v, s.InForce env entries v ∧ s.Accepts v c) ∧
      ∀ files' env' path?' c' entries', load files' env' path?' = .ok c' →
        IsDocument files' path?' entries' →
        (∀ s : Setting, s.stored entries' = s.stored entries ∧
          env'.lookup s.variableName = env.lookup s.variableName) → c' = c := by
  have hvalues : ∀ {files : Files} {env : Environment} {path? : Option String} {c : Settings}
      {entries : Mapping}, load files env path? = .ok c → IsDocument files path? entries →
        ∀ s : Setting, ∃ v, s.InForce env entries v ∧ s.Accepts v c := by
    intro files env path? c entries h hdocument s
    rw [hdocument.load_eq env] at h
    exact (((layered_eq_ok_iff hdocument.wellKeyed env c).mp h).2 s).2
  obtain ⟨entries, hdocument⟩ := exists_isDocument h
  refine ⟨entries, hdocument, hvalues h hdocument, ?_⟩
  intro files' env' path?' c' entries' h' hdocument' hsame
  refine Setting.eq_of_accepts fun s => ?_
  obtain ⟨v, hforce, haccepts⟩ := hvalues h hdocument s
  obtain ⟨v', hforce', haccepts'⟩ := hvalues h' hdocument' s
  obtain ⟨hstored, hvariable⟩ := hsame s
  have hsameForce : s.InForce env entries v' := by
    rwa [Setting.InForce, hstored, hvariable] at hforce'
  obtain rfl : v' = v := hsameForce.unique hforce
  exact ⟨v', haccepts', haccepts⟩

/-- A document with a number and a word as switches and a key of its own, under variables for two
settings and for that key: the number is replaced by a number, the word stays, and the level is that
of the environment. -/
theorem load_layers_number_and_word :
    let files : Files := fun _ => .file
      (Utf8.encode "matching:\n  ignore_case: 1\n  literal: yes\nextra: 5\n".toList) "work"
    let env : Environment := [("TARGETRUNNERS_MATCHING__IGNORE_CASE", "0"),
      ("TARGETRUNNERS_LOGGING__LEVEL", "DEBUG"), ("TARGETRUNNERS_EXTRA", "9")]
    let c : Settings := ⟨⟨false, true⟩, ⟨"DEBUG", "readable"⟩⟩
    load files env (some "settings.yml") = .ok c ∧
      ∃ entries, IsDocument files (some "settings.yml") entries ∧
        ∀ s : Setting, ∃ v, s.InForce env entries v ∧ s.Accepts v c := by
  intro files env c
  have h : load files env (some "settings.yml") = .ok c :=
    eq_ok_of_toOption (by decide +kernel)
  obtain ⟨entries, hdocument, hvalues, -⟩ := load_layers h
  exact ⟨h, entries, hdocument, hvalues⟩

end Settings

end RunnerAtlas
