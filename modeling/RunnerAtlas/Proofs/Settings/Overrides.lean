import RunnerAtlas.Proofs.Store.Overriding

set_option relaxedAutoImplicit false
set_option autoImplicit false

/-!
# The environment changes the leaves that it names

In a mapping whose keys are names at every level, each leaf has a variable: the names that lead to
it, joined and in capitals. The environment overrides the leaves whose variables are set, each with
its text read as the kind of value that was there, and leaves everything else as it is. It fails
exactly if a number would be replaced by a text that is none. To do it a second time changes
nothing.

## Main definitions

* `RunnerAtlas.Value.NameKeyed` — a value whose mappings have only names as keys.
* `RunnerAtlas.Value.outline` — the keys of a value at every level.
* `RunnerAtlas.Override.variableOf` — the variable of a leaf.
* `RunnerAtlas.Override.Rejects` — a text that is no number in place of a number.

## Main results

* `RunnerAtlas.Override.mapping_overrides` — which leaves the environment changes, and how.
-/

namespace RunnerAtlas

open Outcome RunnerAtlas.Text

/-! ### Mappings whose keys are names -/

/-- The keys of a mapping are names, which are texts that are not empty, and no two are the same. -/
structure Mapping.Named (m : Mapping) : Prop where
  /-- They are names. -/
  name : ∀ e ∈ m, ∃ name, e.1 = .str name ∧ name ≠ ""
  /-- No two are the same. -/
  nodup : (m.map Prod.fst).Nodup

/-- A value in which every mapping that keys lead to has only names as keys. -/
inductive Value.NameKeyed : Value → Prop where
  /-- A value without entries. -/
  | atom {v : Value} (h : ∀ entries, v ≠ .map entries) : NameKeyed v
  /-- A mapping. -/
  | map {entries : Mapping} (hnames : entries.Named) (hvalues : ∀ e ∈ entries, NameKeyed e.2) :
    NameKeyed (.map entries)

/-- Names are distinct keys. -/
lemma Mapping.Named.distinct {m : Mapping} (h : m.Named) : m.Distinct := by
  constructor
  · intro e he
    obtain ⟨name, hname, -⟩ := h.name e he
    rw [hname]
    trivial
  · refine (List.pairwise_map.mp h.nodup).imp_of_mem fun {e f} he hf hne => ?_
    obtain ⟨name, hname, -⟩ := h.name e he
    rw [hname] at hne ⊢
    exact Bool.eq_false_iff.mpr fun hsame => hne ((Value.sameKey_str_iff name f.1).mp hsame).symm

/-- With names as keys, the keys are distinct at every level. -/
lemma Value.NameKeyed.keyed {v : Value} (h : v.NameKeyed) : v.Keyed := by
  induction h with
  | atom h => exact .atom h
  | map hnames _ ih => exact .map hnames.distinct ih

/-- Names lead to each part. -/
lemma Value.NameKeyed.exists_names {v : Value} (h : v.NameKeyed) {l : List Value × Value}
    (hl : l ∈ v.parts) :
    ∃ names : List String, l.1 = names.map .str ∧ ∀ name ∈ names, name ≠ "" := by
  induction h generalizing l with
  | atom h =>
    rw [Value.parts_of_ne_map h] at hl
    obtain rfl := List.mem_singleton.mp hl
    exact ⟨[], rfl, by simp⟩
  | map hnames _ ih =>
    rcases List.mem_cons.mp hl with rfl | hl
    · exact ⟨[], rfl, by simp⟩
    obtain ⟨e, he, l', hl', rfl⟩ := Mapping.exists_of_mem_parts hl
    obtain ⟨name, hname, hne⟩ := hnames.name e he
    obtain ⟨names, hnames, hall⟩ := ih e he hl'
    exact ⟨name :: names, by simp [hname, hnames], List.forall_mem_cons.mpr ⟨hne, hall⟩⟩

/-! ### The outline of a mapping -/

mutual

/-- The keys of a value at every level, with the absent value in place of every leaf. -/
def Value.outline : Value → Value
  | .map entries => .map (Mapping.outline entries)
  | _ => .null

/-- The keys of a mapping at every level, with the absent value in place of every leaf. -/
def Mapping.outline : List (Value × Value) → List (Value × Value)
  | [] => []
  | (key, v) :: rest => (key, v.outline) :: Mapping.outline rest

end

/-- A leaf has no outline. -/
lemma Value.outline_of_ne_map {v : Value} (h : ∀ entries, v ≠ .map entries) :
    v.outline = .null := by
  cases v with
  | map entries => exact absurd rfl (h entries)
  | _ => rfl

/-- The keys that lead to the parts of a mapping stand in its outline. -/
lemma Mapping.map_fst_parts_outline (m : Mapping) :
    (parts (outline m)).map Prod.fst = (parts m).map Prod.fst := by
  refine outline.induct (fun v => v.outline.parts.map Prod.fst = v.parts.map Prod.fst)
    (fun m => (parts (outline m)).map Prod.fst = (parts m).map Prod.fst) ?map ?leaf ?nil ?cons m
  case map =>
    intro entries ih
    rw [Value.outline, Value.parts, Value.parts, List.map_cons, List.map_cons, ih]
  case leaf =>
    intro v hv
    have hv : ∀ entries, v ≠ .map entries := hv
    rw [Value.outline_of_ne_map hv, Value.parts_of_ne_map hv]
    rfl
  case nil => rfl
  case cons =>
    intro key v rest ihv ihrest
    have hkeys : ∀ ls : List (List Value × Value),
        (ls.map fun l => (key :: l.1, l.2)).map Prod.fst = (ls.map Prod.fst).map (key :: ·) := by
      simp
    rw [outline, parts, parts, List.map_append, List.map_append, hkeys, hkeys, ihv, ihrest]

namespace Override

variable {env : Environment} {path old new : Value} {text : String}

/-- The keys at every level stay when the values are overridden. -/
lemma outline_entriesUnder {m r : Mapping} (h : entriesUnder env m path = .ok r) :
    Mapping.outline r = Mapping.outline m := by
  refine entriesUnder.induct
    (fun v path => ∀ w, value env v path = .ok w → w.outline = v.outline)
    (fun m path => ∀ r, entriesUnder env m path = .ok r → Mapping.outline r = Mapping.outline m)
    ?map ?leaf ?nil ?cons m path r h
  case map =>
    intro entries path ih w hw
    rw [value] at hw
    obtain ⟨r, hr, rfl⟩ := (map_eq_ok_iff _ _ _).mp hw
    rw [Value.outline, Value.outline, ih r hr]
  case leaf =>
    intro v path hv w hw
    rw [value] at hw
    · rw [Value.outline_of_ne_map hv, Value.outline_of_ne_map (ne_map_of_leaf hw hv)]
    · exact hv
  case nil =>
    intro path r hr
    cases hr
    rfl
  case cons =>
    intro key old rest path ihold ihrest r hr
    obtain ⟨new, others, -, hnew, hothers, rfl⟩ := (entriesUnder_cons_eq_ok_iff _ _ _ _ _ _).mp hr
    rw [Mapping.outline, Mapping.outline, ihold _ new hnew, ihrest others hothers]

/-! ### Variables -/

/-- The variable of the leaf to which keys lead from a path: all of them joined, in capitals. -/
def variableOf (path : String) (keys : List Value) : String :=
  start ++ LetterCase.upperText
    ("__".intercalate ((if path = "" then [] else [path]) ++ keys.map Value.display))

/-- Names are joined to a path one after the other. -/
lemma pathOf_names {path : String} (hpath : path ≠ "") (names : List String) :
    pathOf (.str path) (names.map .str) = .str ("__".intercalate (path :: names)) := by
  induction names generalizing path with
  | nil => simp [pathOf]
  | cons name rest ih =>
    have hjoin : joined (.str path) (.str name) = .str (path ++ "__" ++ name) := by
      simp [joined, Value.isEmpty, hpath, Value.display]
    have hne : path ++ "__" ++ name ≠ "" := by
      simp [String.append_eq_empty_iff]
    rw [List.map_cons, pathOf, List.foldl_cons, hjoin, ← pathOf, ih hne]
    cases rest with
    | nil => simp [String.intercalate_cons_cons]
    | cons => simp [String.intercalate_cons_cons, String.append_assoc]

/-- The name of the variable that is looked up for a leaf is that of its variable. -/
lemma variableName_pathOf (path : String) {names : List String} (hne : names ≠ [])
    (hnames : ∀ name ∈ names, name ≠ "") :
    variableName (pathOf (.str path) (names.map .str)) =
      .ok (variableOf path (names.map .str)) := by
  have hdisplay : (names.map Value.str).map Value.display = names := by
    simp [Function.comp_def, Value.display]
  rw [variableOf, hdisplay]
  split_ifs with hpath
  · obtain ⟨name, rest, rfl⟩ := List.exists_cons_of_ne_nil hne
    have hjoin : joined (.str path) (.str name) = .str name := by
      simp [joined, Value.isEmpty, hpath]
    rw [List.map_cons, pathOf, List.foldl_cons, hjoin, ← pathOf,
      pathOf_names (hnames name List.mem_cons_self)]
    rfl
  · rw [pathOf_names hpath]
    rfl

/-- A leaf is overridden as its variable says. -/
lemma leaf_of_mem_leaves {m : Mapping} (hm : (Value.map m).NameKeyed) {l : List Value × Value}
    (hl : l ∈ Mapping.leaves m) (env : Environment) (path : String) (old : Value) :
    leaf env (pathOf (.str path) l.1) old = match env.lookup (variableOf path l.1) with
      | some text => converted old text
      | none => .ok old := by
  obtain ⟨hpart, -⟩ := (Mapping.mem_leaves_iff m l).mp hl
  obtain ⟨names, hnames, hall⟩ := hm.exists_names (List.mem_cons_of_mem _ hpart)
  have hne : names ≠ [] := by
    rintro rfl
    exact Mapping.ne_nil_of_mem_leaves hl hnames
  rw [hnames]
  exact leaf_of_variableName (variableName_pathOf path hne hall) env old

/-- A part under names is passed through if it is a mapping, and else it is a leaf that is
overridden at the path of its names. -/
lemma visit_names (env : Environment) (path : String) {l : List Value × Value}
    (hl : ∃ names : List String, l.1 = names.map .str) :
    (∃ entries, l.2 = .map entries ∧ visit env (.str path) l = .ok l.2) ∨
      ((∀ entries, l.2 ≠ .map entries) ∧
        visit env (.str path) l = leaf env (pathOf (.str path) l.1) l.2) := by
  obtain ⟨keys, v⟩ := l
  obtain ⟨names, rfl⟩ := hl
  by_cases hv : ∃ entries, v = .map entries
  · obtain ⟨entries, rfl⟩ := hv
    exact .inl ⟨entries, rfl, by rw [visit_map, walk_names]; rfl⟩
  · have hv : ∀ entries, v ≠ .map entries := fun entries h => hv ⟨entries, h⟩
    exact .inr ⟨hv, by rw [visit_leaf env _ _ hv, walk_names]; rfl⟩

/-! ### Texts in place of values -/

/-- A text cannot be read in place of a value: it is no number, in place of a whole or a
floating-point number. -/
inductive Rejects (text : String) : Value → Prop where
  /-- It is no whole number. -/
  | whole (m : Int) {cause : Decimal.NumberError} (h : Decimal.readInt 10 text = .error cause) :
    Rejects text (.int m)
  /-- It is no floating-point number. -/
  | decimal (x : Binary64) {cause : Decimal.NumberError}
    (h : Decimal.readFloat text = .error cause) : Rejects text (.float x)

/-- A text that cannot be read in place of a value is no number. -/
lemma number_of_converted {e : OverrideError} (h : converted old text = .error e) :
    Rejects text old ∧ ∃ cause, e = .number cause := by
  cases old with
  | int m =>
    obtain ⟨cause, hcause, rfl⟩ := (mapError_eq_error_iff _ _ _).mp h
    exact ⟨.whole m ((map_eq_error_iff _ _ _).mp hcause), cause, rfl⟩
  | float x =>
    obtain ⟨cause, hcause, rfl⟩ := (mapError_eq_error_iff _ _ _).mp h
    exact ⟨.decimal x ((map_eq_error_iff _ _ _).mp hcause), cause, rfl⟩
  | _ => cases h

/-- What a text was read as in place of a value is read from it again. -/
lemma Replaces.again (h : Replaces text old new) : Replaces text new new := by
  cases h with
  | truth b => exact .truth _
  | whole m h => exact .whole _ h
  | decimal x h => exact .decimal _ h
  | text h => exact .text rfl

/-- No text is read in place of a value that rejects it. -/
lemma Rejects.not_replaces (h : Rejects text old) : ¬ Replaces text old new := by
  intro hnew
  cases h with
  | whole m h =>
    cases hnew with
    | whole _ h' => rw [h] at h'; cases h'
    | text h => cases h
  | decimal x h =>
    cases hnew with
    | decimal _ h' => rw [h] at h'; cases h'
    | text h => cases h

/-! ### All leaves -/

/-- What holds of the second of every pair of members holds of every member of the second list. -/
lemma forall_mem_of_forall₂ {α β : Type} {R : α → β → Prop} {Q : β → Prop} {as : List α}
    {bs : List β} (h : List.Forall₂ R as bs) (hQ : ∀ a b, R a b → Q b) : ∀ b ∈ bs, Q b := by
  induction h with
  | nil => simp
  | cons hab _ ih => exact List.forall_mem_cons.mpr ⟨hQ _ _ hab, ih⟩

/-- What becomes of a leaf: under its keys stands what its variable is read as in place of its
value, or its value if the variable is not set. -/
def Becomes (env : Environment) (path : String) (l l' : List Value × Value) : Prop :=
  l'.1 = l.1 ∧ match env.lookup (variableOf path l.1) with
    | some text => Replaces text l.2 l'.2
    | none => l'.2 = l.2

section Leaves

variable {m r : Mapping} (hm : (Value.map m).NameKeyed) {env : Environment} {path : String}

include hm

/-- A leaf fails exactly if its variable is set to a text that cannot be read in place of its
value. -/
lemma leaf_eq_error_iff {l : List Value × Value} (hl : l ∈ Mapping.leaves m) (e : OverrideError) :
    leaf env (pathOf (.str path) l.1) l.2 = .error e ↔
      ∃ text, env.lookup (variableOf path l.1) = some text ∧ converted l.2 text = .error e := by
  rw [leaf_of_mem_leaves hm hl]
  cases env.lookup (variableOf path l.1) <;> simp

/-- Each leaf of a mapping that is overridden becomes what its variable says. -/
lemma forall₂_becomes (hr : mapping env m path = .ok r) :
    List.Forall₂ (fun l l' => l ∈ Mapping.leaves m ∧ Becomes env path l l') (Mapping.leaves m)
      (Mapping.leaves r) := by
  have hall : List.Forall₂ (fun l l' => leafUnder env (.str path) l = .ok l')
      (Mapping.leaves m) (Mapping.leaves r) := by
    rw [← mapM_eq_ok_iff]
    exact leaves_of_entriesUnder hr
  refine ((List.forall₂_and_left _ _).mpr ⟨fun l hl => hl, hall⟩).imp fun l l' h => ⟨h.1, ?_⟩
  obtain ⟨w, hw, rfl⟩ := (map_eq_ok_iff _ _ _).mp h.2
  refine ⟨rfl, ?_⟩
  rw [leaf_of_mem_leaves hm h.1] at hw
  cases hlookup : env.lookup (variableOf path l.1) with
  | some text => rw [hlookup] at hw; exact (converted_eq_ok_iff _ _ _).mp hw
  | none => rw [hlookup] at hw; exact (Except.ok.inj hw).symm

/-- If overriding fails, a leaf does. -/
lemma exists_leaf_eq_error {e : OverrideError} (he : mapping env m path = .error e) :
    ∃ l ∈ Mapping.leaves m, leaf env (pathOf (.str path) l.1) l.2 = .error e := by
  obtain ⟨before, l, after, hparts, -, hl⟩ := (entriesUnder_eq_error_iff _ _ _ _).mp he
  have hmem : l ∈ Mapping.parts m := by simp [hparts]
  obtain ⟨names, hnames, -⟩ := hm.exists_names (List.mem_cons_of_mem _ hmem)
  rcases visit_names env path ⟨names, hnames⟩ with ⟨entries, -, hvisit⟩ | ⟨hne, hvisit⟩
  · rw [hvisit] at hl
    cases hl
  · exact ⟨l, (Mapping.mem_leaves_iff m l).mpr ⟨hmem, hne⟩, hvisit ▸ hl⟩

/-- What a leaf has become stays when it is overridden once more. -/
lemma leaf_of_becomes {l l' : List Value × Value} (hl : l ∈ Mapping.leaves m)
    (h : Becomes env path l l') : leaf env (pathOf (.str path) l'.1) l'.2 = .ok l'.2 := by
  obtain ⟨hkeys, hvalue⟩ := h
  rw [hkeys, leaf_of_mem_leaves hm hl]
  cases hlookup : env.lookup (variableOf path l.1) with
  | some text =>
    rw [hlookup] at hvalue
    exact (converted_eq_ok_iff _ _ _).mpr hvalue.again
  | none => rfl

/-- A mapping that was overridden stays when it is overridden once more. -/
lemma mapping_of_mapping (hr : mapping env m path = .ok r) : mapping env r path = .ok r := by
  have hbecomes := forall_mem_of_forall₂ (forall₂_becomes hm hr) fun l l' h =>
    leaf_of_becomes hm h.1 h.2
  have hkeys : (Mapping.parts r).map Prod.fst = (Mapping.parts m).map Prod.fst := by
    rw [← Mapping.map_fst_parts_outline, outline_entriesUnder hr, Mapping.map_fst_parts_outline]
  refine entriesUnder_of_visit fun l hl => ?_
  have hmem : l.1 ∈ (Mapping.parts m).map Prod.fst := hkeys ▸ List.mem_map_of_mem hl
  obtain ⟨l', hl', hsame⟩ := List.mem_map.mp hmem
  obtain ⟨names, hnames, -⟩ := hm.exists_names (List.mem_cons_of_mem _ hl')
  rcases visit_names env path ⟨names, hsame.symm.trans hnames⟩ with
    ⟨_, -, hvisit⟩ | ⟨hne, hvisit⟩
  · exact hvisit
  · rw [hvisit]
    exact hbecomes l ((Mapping.mem_leaves_iff r l).mpr ⟨hl, hne⟩)

end Leaves

/-- **The environment changes the leaves that it names.** In a mapping whose keys are names at every
level, overriding fails exactly if a leaf that is a number has its variable set to a text that is
none, and it fails for no other reason. Otherwise the keys stay at every level and in order, each
leaf becomes what its variable says, and overriding once more changes nothing. In a store it ends
with the same outcome, and leaves the mapping as it was.

**Proof sketch.** The leaves are overridden one after the other, each as its variable says
(`leaf_eq_error_iff`, `forall₂_becomes`). What a text was read as is read from it again, so every
leaf stays the second time (`mapping_of_mapping`). `Store.ends_override` follows the loop. -/
theorem mapping_overrides {m : Mapping} (hm : (Value.map m).NameKeyed) (env : Environment)
    (path : String) :
    ((∃ e, mapping env m path = .error e) ↔ ∃ l ∈ Mapping.leaves m, ∃ text,
      env.lookup (variableOf path l.1) = some text ∧ Rejects text l.2) ∧
    (∀ e, mapping env m path = .error e → ∃ cause, e = .number cause) ∧
    (∀ r, mapping env m path = .ok r → Mapping.outline r = Mapping.outline m ∧
      List.Forall₂ (Becomes env path) (Mapping.leaves m) (Mapping.leaves r) ∧
      mapping env r path = .ok r) ∧
    ∀ (σ : Store) (p : Nat), Store.Holds σ (fun _ => True) (.place p) (.map m) → ∃ outcome τ,
      Store.Run.Ends (fun k => Store.override env k p (.str path)) σ outcome τ ∧
        Both (fun q r => Store.Holds τ (fun _ => True) (.place q) (.map r)) outcome
          (mapping env m path) ∧
        Store.Holds τ (fun _ => True) (.place p) (.map m) ∧
        ∀ (q : Nat) (fields : Fields), σ[q]? = some fields → τ[q]? = some fields := by
  refine ⟨⟨?fails, ?rejects⟩, ?reason, fun r hr => ?succeeds, fun σ p hp => ?stored⟩
  case fails =>
    rintro ⟨e, he⟩
    obtain ⟨l, hmem, hl⟩ := exists_leaf_eq_error hm he
    obtain ⟨text, htext, hconverted⟩ := (leaf_eq_error_iff hm hmem e).mp hl
    exact ⟨l, hmem, text, htext, (number_of_converted hconverted).1⟩
  case rejects =>
    rintro ⟨l, hmem, text, htext, hrejects⟩
    cases hr : mapping env m path with
    | error e => exact ⟨e, rfl⟩
    | ok r =>
      have hleaves := leaves_of_entriesUnder hr
      obtain ⟨_, hl⟩ := (exists_mapM_eq_ok_iff _ _).mp ⟨_, hleaves⟩ l hmem
      obtain ⟨w, hw, -⟩ := (map_eq_ok_iff _ _ _).mp hl
      rw [leaf_of_mem_leaves hm hmem, htext] at hw
      exact absurd ((converted_eq_ok_iff _ _ _).mp hw) hrejects.not_replaces
  case reason =>
    intro e he
    obtain ⟨l, hmem, hl⟩ := exists_leaf_eq_error hm he
    obtain ⟨text, -, hconverted⟩ := (leaf_eq_error_iff hm hmem e).mp hl
    exact (number_of_converted hconverted).2
  case succeeds =>
    have hbecomes := forall₂_becomes hm hr
    exact ⟨outline_entriesUnder hr, hbecomes.imp fun _ _ h => h.2, mapping_of_mapping hm hr⟩
  case stored =>
    obtain ⟨outcome, τ, hrun, hkeeps, hboth⟩ := Store.ends_override hm.keyed hp env (.str path)
    refine ⟨outcome, τ, hrun, ?_, hkeeps.holds hp, fun q fields => hkeeps q fields trivial⟩
    show Both _ outcome (entriesUnder env m (.str path))
    generalize entriesUnder env m (.str path) = overridden at hboth ⊢
    cases hboth with
    | ok h => exact .ok (h.weaken fun _ _ => trivial)
    | error e => exact .error e

/-- A mapping with a switch in a section, and a number. -/
private def switchAndSize (switch : Bool) (size : Int) : Mapping :=
  [(.str "matching", .map [(.str "literal", .bool switch)]), (.str "size", .int size)]

/-- A word turns a switch on, and digits replace a number that no other text replaces. -/
theorem mapping_overrides_switch :
    (∃ e, mapping [("TARGETRUNNERS_SIZE", "many")] (switchAndSize false 3) "" = .error e) ∧
    mapping [("TARGETRUNNERS_MATCHING__LITERAL", "Yes"), ("TARGETRUNNERS_SIZE", "1_2")]
        (switchAndSize false 3) "" = .ok (switchAndSize true 12) ∧
    mapping [("TARGETRUNNERS_MATCHING__LITERAL", "Yes"), ("TARGETRUNNERS_SIZE", "1_2")]
        (switchAndSize true 12) "" = .ok (switchAndSize true 12) ∧
    ∃ outcome τ,
      Store.Run.Ends (fun k => Store.override [("TARGETRUNNERS_SIZE", "many")] k 1 (.str ""))
        [[(.str "literal", .value (.bool false))],
          [(.str "matching", .place 0), (.str "size", .value (.int 3))]] outcome τ ∧
      Store.Holds τ (fun _ => True) (.place 1) (.map (switchAndSize false 3)) := by
  have hleaf : ∀ v : Value, v.entries? = none → v.NameKeyed := fun v hv =>
    .atom fun entries h => by rw [h] at hv; cases hv
  have hnamed : (Value.map (switchAndSize false 3)).NameKeyed := by
    refine .map ⟨by simp [switchAndSize], by simp [switchAndSize]⟩ ?_
    refine List.forall_mem_cons.mpr ⟨.map ⟨by simp, by simp⟩ ?_, ?_⟩
    · simpa using hleaf (.bool false) rfl
    · simpa using hleaf (.int 3) rfl
  have hheld : Store.Holds [[(.str "literal", .value (.bool false))],
      [(.str "matching", .place 0), (.str "size", .value (.int 3))]] (fun _ => True) (.place 1)
      (.map (switchAndSize false 3)) := by
    simp [switchAndSize, Store.Holds, Store.HoldsAll, Value.entries?]
  obtain ⟨hfails, -, -, hstored⟩ := mapping_overrides hnamed [("TARGETRUNNERS_SIZE", "many")] ""
  have hset : mapping [("TARGETRUNNERS_MATCHING__LITERAL", "Yes"), ("TARGETRUNNERS_SIZE", "1_2")]
      (switchAndSize false 3) "" = .ok (switchAndSize true 12) := rfl
  obtain ⟨outcome, τ, hrun, -, hkept, -⟩ := hstored _ 1 hheld
  refine ⟨hfails.mpr ⟨([.str "size"], .int 3), ?_, "many", rfl, ?_⟩, hset,
    ((mapping_overrides hnamed _ "").2.2.1 _ hset).2.2, outcome, τ, hrun, hkept⟩
  · simp [switchAndSize, Mapping.leaves, Value.leaves]
  · exact Rejects.whole 3 (rfl : Decimal.readInt 10 "many" = .error (.notInt 10 "many"))

end Override

end RunnerAtlas
