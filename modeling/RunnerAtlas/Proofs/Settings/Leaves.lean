import RunnerAtlas.Proofs.Settings.Layers

set_option relaxedAutoImplicit false
set_option autoImplicit false

/-!
# Overriding leaf by leaf

The environment overrides the leaves of a mapping, one after the other: each at the path to which
its keys lead, with no regard to the others. A mapping at a level of its own is passed through, but
its keys have to make a path too, even if there is no leaf below it. So a mapping can be overridden
exactly if each of its parts can, and the first one that cannot decides the error.

## Main definitions

* `RunnerAtlas.Mapping.leaves` — the values without entries in a mapping, with the keys that lead to
  them.
* `RunnerAtlas.Mapping.parts` — all values in a mapping, with the keys that lead to them.
* `RunnerAtlas.Value.TextKeyed` — a value whose mappings have only texts as keys.
* `RunnerAtlas.Override.pathOf`, `RunnerAtlas.Override.walk` — the path to which keys lead, and the
  way there.
* `RunnerAtlas.Override.visit` — what comes of a part.

## Main results

* `RunnerAtlas.Mapping.mem_leaves_merge` — the leaves of a mapping laid over another one.
* `RunnerAtlas.Override.leaves_of_entriesUnder` — the leaves of a mapping that was overridden.
* `RunnerAtlas.Override.visits_entriesUnder` — overriding goes through the parts.
* `RunnerAtlas.Override.exists_entriesUnder_iff`, `RunnerAtlas.Override.entriesUnder_eq_error_iff` —
  which mappings can be overridden, and the error of those that cannot.
-/

namespace RunnerAtlas

open Outcome

/-! ### Leaves -/

mutual

/-- The values without entries in a value, each with the keys that lead to it. -/
def Value.leaves : Value → List (List Value × Value)
  | .map entries => Mapping.leaves entries
  | v => [([], v)]

/-- The values without entries in a mapping, each with the keys that lead to it. -/
def Mapping.leaves : List (Value × Value) → List (List Value × Value)
  | [] => []
  | (key, v) :: rest => v.leaves.map (fun l => (key :: l.1, l.2)) ++ Mapping.leaves rest

end

/-- A value that is no mapping is its own leaf. -/
lemma Value.leaves_of_ne_map {v : Value} (h : ∀ entries, v ≠ .map entries) :
    v.leaves = [([], v)] := by
  cases v with
  | map entries => exact absurd rfl (h entries)
  | _ => rfl

/-- Keys lead to each leaf of a mapping. -/
lemma Mapping.ne_nil_of_mem_leaves {entries : Mapping} {l : List Value × Value}
    (h : l ∈ leaves entries) : l.1 ≠ [] := by
  induction entries with
  | nil => cases h
  | cons entry rest ih =>
    rw [leaves, List.mem_append, List.mem_map] at h
    rcases h with ⟨_, _, rfl⟩ | h
    · simp
    · exact ih h

/-! ### Parts -/

mutual

/-- A value and the values below it at every level, each with the keys that lead to it. -/
def Value.parts : Value → List (List Value × Value)
  | .map entries => ([], .map entries) :: Mapping.parts entries
  | v => [([], v)]

/-- The values in a mapping at every level, each with the keys that lead to it. -/
def Mapping.parts : List (Value × Value) → List (List Value × Value)
  | [] => []
  | (key, v) :: rest => v.parts.map (fun l => (key :: l.1, l.2)) ++ Mapping.parts rest

end

/-- A value comes before what is below it. -/
lemma Value.exists_parts_eq (v : Value) : ∃ below, v.parts = ([], v) :: below := by
  cases v <;> exact ⟨_, rfl⟩

/-- A value that is no mapping has nothing below it. -/
lemma Value.parts_of_ne_map {v : Value} (h : ∀ entries, v ≠ .map entries) :
    v.parts = [([], v)] := by
  cases v with
  | map entries => exact absurd rfl (h entries)
  | _ => rfl

/-- The leaves are the parts that are no mappings. -/
lemma Mapping.mem_leaves_iff (entries : Mapping) (l : List Value × Value) :
    l ∈ leaves entries ↔ l ∈ parts entries ∧ ∀ below, l.2 ≠ .map below := by
  refine leaves.induct
    (fun v => ∀ l, l ∈ v.leaves ↔ l ∈ v.parts ∧ ∀ below, l.2 ≠ .map below)
    (fun entries => ∀ l, l ∈ leaves entries ↔ l ∈ parts entries ∧ ∀ below, l.2 ≠ .map below)
    ?map ?leaf ?nil ?cons entries l
  case map =>
    intro entries ih l
    rw [Value.leaves, Value.parts, ih, List.mem_cons]
    constructor
    · exact fun h => ⟨.inr h.1, h.2⟩
    · rintro ⟨rfl | h, hne⟩
      · exact absurd rfl (hne entries)
      · exact ⟨h, hne⟩
  case leaf =>
    intro v hv l
    have hv : ∀ entries, v ≠ .map entries := hv
    rw [Value.leaves_of_ne_map hv, Value.parts_of_ne_map hv, List.mem_singleton]
    exact ⟨fun h => ⟨h, h ▸ hv⟩, And.left⟩
  case nil => intro l; simp [leaves, parts]
  case cons =>
    intro key v rest ihv ihrest l
    simp only [leaves, parts, List.mem_append, List.mem_map, ihv, ihrest, or_and_right]
    refine or_congr ⟨?_, ?_⟩ Iff.rfl
    · rintro ⟨l', ⟨hl', hne⟩, rfl⟩
      exact ⟨⟨l', hl', rfl⟩, hne⟩
    · rintro ⟨⟨l', hl', rfl⟩, hne⟩
      exact ⟨l', ⟨hl', hne⟩, rfl⟩

/-- Keys lead to each part of a mapping. -/
lemma Mapping.ne_nil_of_mem_parts {entries : Mapping} {l : List Value × Value}
    (h : l ∈ parts entries) : l.1 ≠ [] := by
  induction entries with
  | nil => cases h
  | cons entry rest ih =>
    rw [parts, List.mem_append, List.mem_map] at h
    rcases h with ⟨_, _, rfl⟩ | h
    · simp
    · exact ih h

/-- A part of a mapping stands at or below one of its entries. -/
lemma Mapping.exists_of_mem_parts {m : Mapping} {l : List Value × Value} (h : l ∈ parts m) :
    ∃ e ∈ m, ∃ l' ∈ e.2.parts, l = (e.1 :: l'.1, l'.2) := by
  induction m with
  | nil => cases h
  | cons entry rest ih =>
    rw [parts, List.mem_append, List.mem_map] at h
    rcases h with ⟨l', hl', rfl⟩ | h
    · exact ⟨entry, List.mem_cons_self, l', hl', rfl⟩
    · obtain ⟨e, he, hl⟩ := ih h
      exact ⟨e, List.mem_cons_of_mem _ he, hl⟩

/-! ### Leaves below keys -/

namespace Mapping

/-- What a key leads to in a mapping has its leaves below the key. -/
lemma mem_leaves_of_mem {m : Mapping} {e : Value × Value} (he : e ∈ m) {l : List Value × Value}
    (hl : l ∈ e.2.leaves) : (e.1 :: l.1, l.2) ∈ leaves m := by
  induction m with
  | nil => cases he
  | cons first rest ih =>
    rw [leaves, List.mem_append]
    rcases List.mem_cons.mp he with rfl | he
    · exact .inl (List.mem_map_of_mem hl)
    · exact .inr (ih he)

/-- A leaf of a mapping stands below one of its entries. -/
lemma exists_of_mem_leaves {m : Mapping} {l : List Value × Value} (h : l ∈ leaves m) :
    ∃ e ∈ m, ∃ l' ∈ e.2.leaves, l = (e.1 :: l'.1, l'.2) := by
  induction m with
  | nil => cases h
  | cons entry rest ih =>
    rw [leaves, List.mem_append, List.mem_map] at h
    rcases h with ⟨l', hl', rfl⟩ | h
    · exact ⟨entry, List.mem_cons_self, l', hl', rfl⟩
    · obtain ⟨e, he, hl⟩ := ih h
      exact ⟨e, List.mem_cons_of_mem _ he, hl⟩

/-- With distinct keys a text finds what stands under it. -/
lemma find?_of_mem {m : Mapping} {name : String} {v : Value}
    (hdistinct : m.Pairwise fun e f => Document.isSameKey e.1 f.1 = false)
    (h : (.str name, v) ∈ m) : find? m name = some v := by
  induction m with
  | nil => cases h
  | cons entry rest ih =>
    obtain ⟨hfirst, hrest⟩ := List.pairwise_cons.mp hdistinct
    rw [find?_cons]
    rcases List.mem_cons.mp h with rfl | h
    · simp
    · have hkey : ¬ entry.1.sameKey (.str name) = true := by
        intro hsame
        have := hfirst _ h
        rw [(Value.sameKey_eq_str_iff _ _).mp hsame] at this
        simp [Document.isSameKey] at this
      rw [if_neg hkey, ih hrest h]

/-- A leaf to which two texts lead is what the second one finds in what the first one finds. -/
lemma within?_of_mem_leaves {m : Mapping} (hm : (Value.map m).WellKeyed) {group name : String}
    {v : Value} (h : ([.str group, .str name], v) ∈ leaves m) : m.within? group name = some v := by
  obtain ⟨hdistinct, hwell⟩ := hm.of_map
  obtain ⟨⟨key, w⟩, he, ⟨keys, u⟩, hl, heq⟩ := exists_of_mem_leaves h
  simp only [Prod.mk.injEq, List.cons.injEq] at heq
  obtain ⟨⟨rfl, rfl⟩, rfl⟩ := heq
  have hgroup := find?_of_mem hdistinct he
  cases w with
  | map fields =>
    obtain ⟨⟨key', w'⟩, he', ⟨keys', u'⟩, hl', heq'⟩ := exists_of_mem_leaves hl
    simp only [Prod.mk.injEq, List.cons.injEq] at heq'
    obtain ⟨⟨rfl, rfl⟩, rfl⟩ := heq'
    have hname := find?_of_mem (hwell _ he).2.of_map.1 he'
    have hleaf : v = w' := by
      cases w' with
      | map entries => exact absurd rfl (ne_nil_of_mem_leaves hl')
      | _ => simpa [Value.leaves] using hl'
    simp [within?, hgroup, hname, hleaf]
  | _ => simp [Value.leaves] at hl

end Mapping

/-! ### Leaves of mappings whose keys are texts -/

/-- A value in which the keys of every mapping, however deep it stands under keys, are texts. -/
inductive Value.TextKeyed : Value → Prop where
  /-- A value without entries. -/
  | atom {v : Value} (h : ∀ entries, v ≠ .map entries) : TextKeyed v
  /-- A mapping. -/
  | map {entries : Mapping} (hkeys : ∀ e ∈ entries, ∃ name, e.1 = .str name)
    (hvalues : ∀ e ∈ entries, TextKeyed e.2) : TextKeyed (.map entries)

namespace Mapping

/-- The leaves after a value was written under a text are those from before and those below the
value. -/
lemma mem_leaves_put {m : Mapping} {name : String} {v : Value} {l : List Value × Value}
    (h : l ∈ leaves (put m (.str name) v)) :
    l ∈ leaves m ∨ ∃ l' ∈ v.leaves, l = (.str name :: l'.1, l'.2) := by
  induction m with
  | nil => simpa [put, leaves, eq_comm] using h
  | cons entry rest ih =>
    obtain ⟨key, old⟩ := entry
    by_cases hkey : key.sameKey (.str name) = true
    · obtain rfl := (Value.sameKey_eq_str_iff _ _).mp hkey
      simp only [put, hkey, if_true, leaves, List.mem_append, List.mem_map] at h
      rcases h with ⟨l', hl', rfl⟩ | h
      · exact .inr ⟨l', hl', rfl⟩
      · exact .inl (by simp [leaves, h])
    · rw [put, if_neg hkey, leaves, List.mem_append] at h
      rcases h with h | h
      · exact .inl (by simp [leaves, h])
      · exact (ih h).imp_left fun h => by simp [leaves, h]

/-- The leaves of a mapping laid over another one are leaves of one of the two. -/
lemma mem_leaves_merge {updates : Mapping} (hkeys : (Value.map updates).TextKeyed) (base : Mapping)
    {l : List Value × Value} (h : l ∈ leaves (merge updates base)) :
    l ∈ leaves updates ∨ l ∈ leaves base := by
  refine merge.induct
    (fun v old => v.TextKeyed → ∀ l ∈ (mergeValue v old).leaves,
      l ∈ v.leaves ∨ ∃ w, old = some w ∧ l ∈ w.leaves)
    (fun updates base => (Value.map updates).TextKeyed → ∀ l ∈ leaves (merge updates base),
      l ∈ leaves updates ∨ l ∈ leaves base) ?both ?value ?nil ?cons updates base hkeys l h
  case both =>
    intro updates base ih hkeys l hl
    exact (ih hkeys l hl).imp_right fun h => ⟨_, rfl, h⟩
  case value =>
    intro v old hv _ l hl
    rw [mergeValue] at hl
    · exact .inl hl
    · exact hv
  case nil =>
    intro base _ l hl
    exact .inr (by rwa [merge] at hl)
  case cons =>
    intro key v rest base ihv ihrest hkeys l hl
    cases hkeys with
    | atom h => exact absurd rfl (h _)
    | map htexts hvalues =>
    obtain ⟨⟨name, hname⟩, hothers⟩ := List.forall_mem_cons.mp htexts
    obtain ⟨hv, hrest⟩ := List.forall_mem_cons.mp hvalues
    obtain rfl : key = .str name := hname
    rw [merge] at hl
    rw [leaves, List.mem_append, List.mem_map]
    rcases ihrest (.map hothers hrest) l hl with hl | hl
    · exact .inl (.inr hl)
    rcases mem_leaves_put hl with hl | ⟨l', hl', rfl⟩
    · exact .inr hl
    rcases ihv hv l' hl' with hl' | ⟨w, hw, hl'⟩
    · exact .inl (.inl ⟨l', hl', rfl⟩)
    · exact .inr (mem_leaves_of_mem (mem_of_find? hw) hl')

end Mapping

/-! ### Overriding -/

namespace Override

/-- The path to which keys lead from another path. -/
def pathOf (path : Value) (keys : List Value) : Value := keys.foldl joined path

/-- The way to which keys lead from a path, if all of it has a text. -/
def walk (path : Value) (keys : List Value) : Except OverrideError Value := keys.foldlM join path

/-- A leaf overridden at the path to which its keys lead. -/
def leafUnder (env : Environment) (path : Value) (l : List Value × Value) :
    Except OverrideError (List Value × Value) :=
  (leaf env (pathOf path l.1) l.2).map fun w => (l.1, w)

/-- What comes of a part: a leaf is overridden at the end of its way, and a mapping is passed
through. -/
def visit (env : Environment) (path : Value) (l : List Value × Value) :
    Except OverrideError Value := do
  let below ← walk path l.1
  match l.2 with
  | .map entries => pure (.map entries)
  | v => leaf env below v

/-- The way leads to the path. -/
lemma walk_eq_ok {path below : Value} {keys : List Value} (h : walk path keys = .ok below) :
    below = pathOf path keys := by
  induction keys generalizing path with
  | nil => cases h; rfl
  | cons key rest ih =>
    rw [walk, List.foldlM_cons, bind_eq_ok_iff] at h
    obtain ⟨_, hjoin, h⟩ := h
    obtain ⟨-, rfl⟩ := (join_eq_ok_iff _ _ _).mp hjoin
    exact ih h

/-- Texts lead to a path. -/
lemma walk_names (path : String) (names : List String) :
    walk (.str path) (names.map .str) = .ok (pathOf (.str path) (names.map .str)) := by
  induction names generalizing path with
  | nil => rfl
  | cons name rest ih =>
    obtain ⟨below, hbelow⟩ : ∃ below, joined (.str path) (.str name) = .str below := by
      unfold joined
      split <;> exact ⟨_, rfl⟩
    rw [List.map_cons, walk, List.foldlM_cons, join_str, pathOf, List.foldl_cons, hbelow]
    exact ih below

/-- A mapping is passed through where its keys make a way. -/
lemma visit_map (env : Environment) (path : Value) (keys : List Value) (entries : Mapping) :
    visit env path (keys, .map entries) = (walk path keys).map fun _ => .map entries := by
  unfold visit
  cases walk path keys <;> rfl

/-- A leaf is overridden at the end of its way. -/
lemma visit_leaf (env : Environment) (path : Value) (keys : List Value) {v : Value}
    (hv : ∀ entries, v ≠ .map entries) :
    visit env path (keys, v) = walk path keys >>= fun below => leaf env below v := by
  cases v with
  | map entries => exact absurd rfl (hv entries)
  | _ => rfl

/-- The first key is the first part of the way. -/
lemma visit_cons (env : Environment) (path key : Value) (l : List Value × Value) :
    visit env path (key :: l.1, l.2) = join path key >>= fun below => visit env below l := by
  simp only [visit, walk, List.foldlM_cons, bind_assoc]

/-- A value at a path with a variable is what the variable's text is read as in place of it, or
itself. -/
lemma leaf_of_variableName {path : Value} {name : String}
    (h : variableName path = .ok name) (env : Environment) (old : Value) :
    leaf env path old = match env.lookup name with
      | some text => converted old text
      | none => .ok old := by
  rw [leaf, h]
  rfl

/-- No value becomes a mapping by being overridden. -/
lemma ne_map_of_leaf {env : Environment} {path v w : Value} (h : leaf env path v = .ok w)
    (hv : ∀ entries, v ≠ .map entries) (entries : Mapping) : w ≠ .map entries := by
  obtain ⟨name, -, h⟩ := (bind_eq_ok_iff _ _ _).mp h
  split at h
  · rintro rfl
    cases (converted_eq_ok_iff _ _ _).mp h
  · cases h
    exact hv entries

/-- **Overriding leaf by leaf.** The leaves of a mapping that was overridden are its leaves
overridden, one after the other. -/
theorem leaves_of_entriesUnder {env : Environment} {entries result : Mapping} {path : Value}
    (h : entriesUnder env entries path = .ok result) :
    (Mapping.leaves entries).mapM (leafUnder env path) = .ok (Mapping.leaves result) := by
  refine entriesUnder.induct
    (fun v path => ∀ w, value env v path = .ok w →
      v.leaves.mapM (leafUnder env path) = .ok w.leaves)
    (fun entries path => ∀ result, entriesUnder env entries path = .ok result →
      (Mapping.leaves entries).mapM (leafUnder env path) = .ok (Mapping.leaves result))
    ?map ?leaf ?nil ?cons entries path result h
  case map =>
    intro entries path ih w hw
    rw [value] at hw
    obtain ⟨result, hresult, rfl⟩ := (map_eq_ok_iff _ _ _).mp hw
    exact ih result hresult
  case leaf =>
    intro v path hv w hw
    have hv : ∀ entries, v ≠ .map entries := hv
    rw [value] at hw
    · rw [Value.leaves_of_ne_map hv, Value.leaves_of_ne_map (ne_map_of_leaf hw hv), List.mapM_cons,
        leafUnder, pathOf, List.foldl_nil, hw]
      rfl
    · exact hv
  case nil => intro path result h; cases h; rfl
  case cons =>
    intro key old rest path ihold ihrest result h
    obtain ⟨new, others, -, hnew, hothers, rfl⟩ := (entriesUnder_cons_eq_ok_iff _ _ _ _ _ _).mp h
    have hcons : (leafUnder env path ∘ fun l : List Value × Value => (key :: l.1, l.2)) =
        fun l => (leafUnder env (joined path key) l).map fun l => (key :: l.1, l.2) := by
      funext l
      simp only [leafUnder, pathOf, Function.comp, List.foldl_cons]
      cases leaf env (l.1.foldl joined (joined path key)) l.2 <;> rfl
    rw [Mapping.leaves, List.mapM_append, List.mapM_map, hcons, mapM_map_eq, ihold _ new hnew,
      ihrest others hothers]
    rfl

/-- **Overriding goes through the parts**, one after the other: it fails where a part does.

**Proof sketch.** Induction along the recursion of overriding. The first key of an entry is joined
to the path once, before its value is overridden, and again on the way to each part of the value. If
this fails, the value itself, which is the first of these parts, fails with the same error. -/
theorem visits_entriesUnder (env : Environment) (entries : Mapping) (path : Value) :
    (entriesUnder env entries path).map (fun _ => ()) =
      ((Mapping.parts entries).mapM (visit env path)).map fun _ => () := by
  refine entriesUnder.induct
    (fun v path => (value env v path).map (fun _ => ()) =
      (v.parts.mapM (visit env path)).map fun _ => ())
    (fun entries path => (entriesUnder env entries path).map (fun _ => ()) =
      ((Mapping.parts entries).mapM (visit env path)).map fun _ => ())
    ?map ?leaf ?nil ?cons entries path
  case map =>
    intro entries path ih
    rw [value, Value.parts, List.mapM_cons, visit_map]
    cases hentries : entriesUnder env entries path <;>
      cases hparts : (Mapping.parts entries).mapM (visit env path) <;>
      rw [hentries, hparts] at ih <;> first | rfl | cases ih
    rfl
  case leaf =>
    intro v path hv
    have hv : ∀ entries, v ≠ .map entries := hv
    rw [value, Value.parts_of_ne_map hv, List.mapM_cons, visit_leaf env path [] hv]
    · show _ = ((leaf env path v >>= fun w => pure [w]) : Except _ _).map _
      cases leaf env path v <;> rfl
    · exact hv
  case nil => intro path; rfl
  case cons =>
    intro key old rest path ihold ihrest
    have hvisit : (visit env path ∘ fun l : List Value × Value => (key :: l.1, l.2)) =
        fun l => join path key >>= fun below => visit env below l := by
      funext l
      exact visit_cons env path key l
    rw [entriesUnder, Mapping.parts, List.mapM_append, List.mapM_map, hvisit]
    cases join path key with
    | error e =>
      obtain ⟨below, hbelow⟩ := old.exists_parts_eq
      rw [hbelow, List.mapM_cons]
      rfl
    | ok below =>
      have ihold := ihold below
      show (value env old below >>= fun new => _).map _ =
        (old.parts.mapM (visit env below) >>= fun ws => _).map _
      cases hold : value env old below <;> cases hparts : old.parts.mapM (visit env below) <;>
        rw [hold, hparts] at ihold <;> cases ihold
      · rfl
      · cases hothers : entriesUnder env rest path <;>
          cases hrest : (Mapping.parts rest).mapM (visit env path) <;>
          rw [hothers, hrest] at ihrest <;> cases ihrest <;> rfl

/-- The values of a mapping can be overridden exactly if each of its parts can. -/
lemma exists_entriesUnder_iff (env : Environment) (entries : Mapping) (path : Value) :
    (∃ m, entriesUnder env entries path = .ok m) ↔
      ∀ l ∈ Mapping.parts entries, ∃ w, visit env path l = .ok w := by
  have hparts : (∃ m, entriesUnder env entries path = .ok m) ↔
      ∃ u, (entriesUnder env entries path).map (fun _ => ()) = .ok u := by
    cases entriesUnder env entries path <;> simp [Except.map]
  rw [hparts, visits_entriesUnder, ← exists_mapM_eq_ok_iff]
  simp [map_eq_ok_iff]

/-- The first part that cannot be overridden decides the error. -/
lemma entriesUnder_eq_error_iff (env : Environment) (entries : Mapping) (path : Value)
    (e : OverrideError) :
    entriesUnder env entries path = .error e ↔ ∃ before l after,
      Mapping.parts entries = before ++ l :: after ∧
        (∀ b ∈ before, ∃ w, visit env path b = .ok w) ∧ visit env path l = .error e := by
  rw [← map_eq_error_iff (fun _ => ()), visits_entriesUnder, map_eq_error_iff, mapM_eq_error_iff]

/-- Where every part stays, the mapping stays. -/
lemma entriesUnder_of_visit {env : Environment} {entries : Mapping} {path : Value}
    (h : ∀ l ∈ Mapping.parts entries, visit env path l = .ok l.2) :
    entriesUnder env entries path = .ok entries := by
  refine entriesUnder.induct
    (fun v path => (∀ l ∈ v.parts, visit env path l = .ok l.2) → value env v path = .ok v)
    (fun entries path => (∀ l ∈ Mapping.parts entries, visit env path l = .ok l.2) →
      entriesUnder env entries path = .ok entries) ?map ?leaf ?nil ?cons entries path h
  case map =>
    intro entries path ih h
    rw [Value.parts, List.forall_mem_cons] at h
    rw [value, ih h.2]
    rfl
  case leaf =>
    intro v path hv h
    have hv : ∀ entries, v ≠ .map entries := hv
    rw [Value.parts_of_ne_map hv, List.forall_mem_singleton, visit_leaf env path [] hv] at h
    rw [value]
    · exact h
    · exact hv
  case nil => intro path _; rfl
  case cons =>
    intro key old rest path ihold ihrest h
    rw [Mapping.parts, List.forall_mem_append, List.forall_mem_map] at h
    simp only [visit_cons] at h
    have hjoin : join path key = .ok (joined path key) := by
      obtain ⟨below, hbelow⟩ := old.exists_parts_eq
      obtain ⟨_, hjoin, -⟩ := (bind_eq_ok_iff _ _ _).mp (h.1 ([], old) (by simp [hbelow]))
      obtain ⟨-, rfl⟩ := (join_eq_ok_iff _ _ _).mp hjoin
      exact hjoin
    rw [hjoin] at h
    exact (entriesUnder_cons_eq_ok_iff _ _ _ _ _ _).mpr
      ⟨old, rest, hjoin, ihold _ h.1, ihrest h.2, rfl⟩

end Override

end RunnerAtlas
