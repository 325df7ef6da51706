import RunnerAtlas.Proofs.Settings.Leaves
import RunnerAtlas.Proofs.Settings.Replacement

set_option relaxedAutoImplicit false
set_option autoImplicit false

/-!
# Settings with a switch on

Two of the settings are switches that choose how platforms are matched. A switch is turned on by a
document that stores so or by its variable, and both make no other difference to the settings. With
the variable it takes that no other keys of the document lead to the same variable, since what they
lead to would be overridden as well.

## Main definitions

* `RunnerAtlas.MatchSwitch` — the switches, and `MatchSwitch.turnOn`, settings with one of them on.
* `RunnerAtlas.MatchSwitch.IsPlain`, `RunnerAtlas.MatchSwitch.IsAlone` — what is asked of a
  document.

## Main results

* `RunnerAtlas.MatchSwitch.layered_store` — the settings of a document that stores that a switch is
  on.
* `RunnerAtlas.MatchSwitch.layered_set` — the settings where the variable of a switch is set.
-/

namespace RunnerAtlas

open Outcome Validation RunnerAtlas.Text

/-! ### Switches -/

/-- What a document stores for a setting is what stands at its place, or the default. -/
lemma Setting.stored_eq (s : Setting) (entries : Mapping) :
    s.stored entries = (entries.within? s.group s.name).getD s.standard := by
  unfold stored Mapping.within?
  cases entries.find? s.group with
  | none => rfl
  | some v => cases v <;> rfl

/-- The switches that choose how platforms are matched. -/
inductive MatchSwitch where
  /-- Letter case is ignored. -/
  | ignoreCase
  /-- Platforms are literal texts. -/
  | literal
  deriving DecidableEq

namespace MatchSwitch

/-- The setting of a switch. -/
def setting : MatchSwitch → Setting
  | ignoreCase => .ignoreCase
  | literal => .literal

/-- Settings with a switch on. -/
def turnOn (s : MatchSwitch) (c : Settings) : Settings :=
  match s with
  | ignoreCase => { c with matching := { c.matching with ignoreCase := true } }
  | literal => { c with matching := { c.matching with literal := true } }

/-- A switch is off by default. -/
lemma standard_eq (s : MatchSwitch) : s.setting.standard = .bool false := by
  cases s <;> rfl

/-- The truth value for on is validated as a switch that is on. -/
lemma accepts_turnOn_self (s : MatchSwitch) (c : Settings) :
    s.setting.Accepts (.bool true) (s.turnOn c) := by
  cases s <;> rfl

/-- To turn a switch on makes no difference to the other settings. -/
lemma accepts_turnOn_of_ne {s : MatchSwitch} {t : Setting} (hne : t ≠ s.setting) (v : Value)
    (c : Settings) : t.Accepts v (s.turnOn c) ↔ t.Accepts v c := by
  cases s <;> cases t <;> first | exact Iff.rfl | exact absurd rfl hne

/-- A document leaves a switch out or stores a truth value for it. -/
def IsPlain (s : MatchSwitch) (entries : Mapping) : Prop :=
  ∀ v, entries.within? s.setting.group s.setting.name = some v → ∃ b, v = .bool b

/-- No other keys of a document lead to the variable of a switch. -/
def IsAlone (s : MatchSwitch) (entries : Mapping) : Prop :=
  ∀ l ∈ Mapping.leaves entries,
    Override.variableName (Override.pathOf (.str "") l.1) = .ok s.setting.variableName →
      l.1 = [.str s.setting.group, .str s.setting.name]

variable {s : MatchSwitch} {env env' : Environment} {entries entries' : Mapping} {c : Settings}

/-- What is stored for a switch is a truth value. -/
lemma IsPlain.stored_eq (h : s.IsPlain entries) : ∃ b, s.setting.stored entries = .bool b := by
  rw [Setting.stored_eq]
  cases hv : entries.within? s.setting.group s.setting.name with
  | none => exact ⟨false, s.standard_eq⟩
  | some v => exact h v hv

/-- If only a switch differs, and is on, the settings are those with the switch on. -/
lemma layered_turnOn (hentries : (Value.map entries).WellKeyed)
    (hentries' : (Value.map entries').WellKeyed)
    (hm : ∃ m,
      Override.mapping env' (Mapping.merge entries' Settings.standard.toMapping) "" = .ok m)
    (hplaces : ∀ t : Setting, t.HasPlace entries')
    (hself : s.setting.InForce env' entries' (.bool true))
    (hothers : ∀ t : Setting, t ≠ s.setting → t.stored entries' = t.stored entries ∧
      env'.lookup t.variableName = env.lookup t.variableName)
    (hc : Settings.layered env entries = .ok c) :
    Settings.layered env' entries' = .ok (s.turnOn c) := by
  refine (Settings.layered_eq_ok_iff hentries' env' _).mpr ⟨hm, fun t => ⟨hplaces t, ?_⟩⟩
  by_cases ht : t = s.setting
  · subst ht
    exact ⟨_, hself, s.accepts_turnOn_self c⟩
  · obtain ⟨-, v, hforce, hv⟩ := ((Settings.layered_eq_ok_iff hentries env c).mp hc).2 t
    obtain ⟨hstored, hlookup⟩ := hothers t ht
    refine ⟨v, ?_, (accepts_turnOn_of_ne ht v c).mpr hv⟩
    rwa [Setting.InForce, hstored, hlookup]

/-- A document that stores that a switch is on gives the settings with the switch on. -/
lemma layered_store (hentries : (Value.map entries).WellKeyed)
    (hentries' : (Value.map (s.setting.store entries (.bool true))).WellKeyed)
    (hunset : env.lookup s.setting.variableName = none)
    (hc : Settings.layered env entries = .ok c) :
    Settings.layered env (s.setting.store entries (.bool true)) = .ok (s.turnOn c) := by
  obtain ⟨⟨m, hm⟩, hall⟩ := (Settings.layered_eq_ok_iff hentries env c).mp hc
  have hstored := Setting.stored_of_within? (s.setting.within?_store entries (.bool true))
  refine layered_turnOn hentries hentries' ?_ (fun t => ⟨?_, ?_⟩) ?_ (fun t ht => ⟨?_, rfl⟩) hc
  · have hne : ∀ fields, Value.bool true ≠ .map fields := nofun
    have hvalue := (s.setting.value_path_eq_ok_iff env hne (.bool true)).mpr (by rw [hunset])
    exact Settings.exists_overridden_store hentries (hall s.setting).1.1 hm hvalue
  · exact Setting.hasSection_store (fun t => (hall t).1.1) t _
  · by_cases ht : t = s.setting
    · rw [ht, hstored]
      exact nofun
    · rw [Setting.stored_store_of_ne ht]
      exact (hall t).1.2
  · rw [Setting.InForce, hunset, hstored]
  · exact Setting.stored_store_of_ne ht entries _

/-- The defaults have distinct keys. -/
lemma wellKeyed_standard : (Value.map Settings.standard.toMapping).WellKeyed := by
  have hatom : ∀ s, (Value.str s).WellKeyed := fun _ => .atom rfl rfl
  have hsection : ∀ {name name' : String} {v w : Value},
      Document.isSameKey (.str name) (.str name') = false → v.WellKeyed → w.WellKeyed →
      (Value.map [(.str name, v), (.str name', w)]).WellKeyed := by
    intro name name' v w hne hv hw
    exact .map (List.pairwise_pair.mpr hne) (by simp [hatom]) (by simp [hv, hw])
  exact hsection rfl (hsection rfl (.atom rfl rfl) (.atom rfl rfl))
    (hsection rfl (hatom _) (hatom _))

/-- The settings without a document are those of a document that holds the defaults. -/
lemma layered_standard (env : Environment) :
    Settings.layered env Settings.standard.toMapping = Settings.layered env [] := by
  have hmerge : Mapping.merge Settings.standard.toMapping Settings.standard.toMapping =
      Mapping.merge [] Settings.standard.toMapping := by decide +kernel
  rw [Settings.layered, hmerge, Settings.layered]

/-- Keys to a leaf of a document over the defaults that lead to the variable of a switch are those
of the switch, and what they lead to is a truth value. -/
lemma exists_bool_of_mem_leaves (hentries : (Value.map entries).WellKeyed)
    (hkeys : (Value.map entries).TextKeyed) (hplain : s.IsPlain entries)
    (halone : s.IsAlone entries) {l : List Value × Value}
    (hl : l ∈ Mapping.leaves (Mapping.merge entries Settings.standard.toMapping))
    (hname : Override.variableName (Override.pathOf (.str "") l.1) =
      .ok s.setting.variableName) : ∃ b, l.2 = .bool b := by
  rcases Mapping.mem_leaves_merge hkeys _ hl with hl | hl
  · obtain ⟨keys, v⟩ := l
    obtain rfl : keys = _ := halone _ hl hname
    exact hplain v (Mapping.within?_of_mem_leaves hentries hl)
  · have hstandard : ∀ l ∈ Mapping.leaves Settings.standard.toMapping, ∃ t : Setting,
        Override.pathOf (.str "") l.1 = t.path ∧ l.2 = t.standard := by
      intro l hl
      simp only [Settings.toMapping, Mapping.leaves, Value.leaves, List.map_cons, List.map_nil,
        List.append_nil, List.cons_append, List.nil_append, List.mem_cons, List.not_mem_nil,
        or_false] at hl
      rcases hl with rfl | rfl | rfl | rfl
      · exact ⟨.ignoreCase, rfl, rfl⟩
      · exact ⟨.literal, rfl, rfl⟩
      · exact ⟨.level, rfl, rfl⟩
      · exact ⟨.format, rfl, rfl⟩
    obtain ⟨t, hpath, hvalue⟩ := hstandard l hl
    rw [hpath, t.variableName_path] at hname
    obtain rfl := Setting.variableName_injective (Except.ok.inj hname)
    exact ⟨false, hvalue.trans s.standard_eq⟩

/-- With its variable set to the word for truth a switch is on. -/
lemma layered_set (hentries : (Value.map entries).WellKeyed)
    (hkeys : (Value.map entries).TextKeyed) (hplain : s.IsPlain entries)
    (halone : s.IsAlone entries) (hc : Settings.layered env entries = .ok c) :
    Settings.layered ((s.setting.variableName, "true") :: env) entries = .ok (s.turnOn c) := by
  obtain ⟨hm, hall⟩ := (Settings.layered_eq_ok_iff hentries env c).mp hc
  refine layered_turnOn hentries hentries ?_ (fun t => (hall t).1) ?_ (fun t ht => ⟨rfl, ?_⟩) hc
  · rw [Override.mapping, Override.exists_entriesUnder_iff] at hm ⊢
    rintro ⟨keys, v⟩ hl
    obtain ⟨w, hw⟩ := hm _ hl
    by_cases hv : ∃ fields, v = .map fields
    · obtain ⟨fields, rfl⟩ := hv
      rw [Override.visit_map] at hw ⊢
      exact ⟨w, hw⟩
    have hv : ∀ fields, v ≠ .map fields := fun fields h => hv ⟨fields, h⟩
    rw [Override.visit_leaf _ _ _ hv] at hw ⊢
    obtain ⟨_, hwalk, hw⟩ := (bind_eq_ok_iff _ _ _).mp hw
    obtain rfl := Override.walk_eq_ok hwalk
    obtain ⟨name, hname, -⟩ := (bind_eq_ok_iff _ _ _).mp hw
    rw [hwalk]
    show ∃ w, Override.leaf _ (Override.pathOf (.str "") keys) v = .ok w
    rw [Override.leaf_of_variableName hname] at hw ⊢
    by_cases hself : name = s.setting.variableName
    · subst hself
      obtain ⟨b, hb⟩ := exists_bool_of_mem_leaves hentries hkeys hplain halone
        ((Mapping.mem_leaves_iff _ _).mpr ⟨hl, hv⟩) hname
      rw [List.lookup_cons_self, show v = .bool b from hb]
      exact ⟨_, rfl⟩
    · rw [List.lookup_cons, beq_eq_false_iff_ne.mpr hself]
      exact ⟨w, hw⟩
  · obtain ⟨b, hb⟩ := hplain.stored_eq
    rw [Setting.InForce, List.lookup_cons_self, hb]
    exact (Override.converted_eq_ok_iff _ _ _).mp (by cases b <;> rfl)
  · have hne : t.variableName ≠ s.setting.variableName :=
      fun h => ht (Setting.variableName_injective h)
    rw [List.lookup_cons, beq_eq_false_iff_ne.mpr hne]

end MatchSwitch

end RunnerAtlas
