import RunnerAtlas.Proofs.Settings.Leaves
import RunnerAtlas.Proofs.Value.Equality
import RunnerAtlas.Proofs.Value.Merging

set_option relaxedAutoImplicit false
set_option autoImplicit false

/-!
# Settings without variables

Where no variable is set, overriding changes no value. But it still makes the path to each part of a
mapping, and asks for the name of each leaf's variable. There is no path if a number without a text
is joined to it, and no name if the keys that lead to the leaf end in a number, a day or the like
before any of them is a text.

## Main definitions

* `RunnerAtlas.Override.Unnameable` — keys that make no name of a variable.
* `RunnerAtlas.Override.Unwritable` — keys that make no path.
* `RunnerAtlas.Override.Offends` — a part that cannot be overridden, though no variable is set.
* `RunnerAtlas.Override.Unset` — an environment in which no variable is set.

## Main results

* `RunnerAtlas.Override.walk_eq_error_iff`, `RunnerAtlas.Override.variableName_pathOf_eq_error_iff`
  — which keys make no path, and which paths have no variable.
* `RunnerAtlas.Settings.load_unset` — the settings of a file where no variable is set.
* `RunnerAtlas.Settings.load_unset_fails` — mappings that are not validated, and a sequence that is
  no error.
-/

namespace RunnerAtlas

open Outcome RunnerAtlas.Text

/-! ### Paths without variables -/

namespace Override

/-- Keys to a leaf that make no name of a variable: the last one is neither a text nor octets, and
all before it count as absent. -/
def Unnameable (keys : List Value) (kind : String) : Prop :=
  ∃ before key, keys = before ++ [key] ∧ (∀ b ∈ before, b.isEmpty = true) ∧
    (∀ s, key ≠ .str s) ∧ (∀ octets, key ≠ .bytes octets) ∧ key.kind = kind

/-- A path counts as absent exactly if what it was made of does. -/
lemma isEmpty_joined (path key : Value) :
    (joined path key).isEmpty = (path.isEmpty && key.isEmpty) := by
  unfold joined
  cases path.isEmpty with
  | true => rfl
  | false =>
    have hne : path.display ++ "__" ++ key.display ≠ "" := by
      intro h
      simp [String.append_eq_empty_iff] at h
    simp [Value.isEmpty]

/-- A path counts as absent exactly if the path before it and all its keys do. -/
lemma isEmpty_pathOf (path : Value) (keys : List Value) :
    (pathOf path keys).isEmpty = (path.isEmpty && keys.all Value.isEmpty) := by
  induction keys generalizing path with
  | nil => simp [pathOf]
  | cons key rest ih =>
    rw [pathOf, List.foldl_cons, ← pathOf, ih, isEmpty_joined, List.all_cons, Bool.and_assoc]

/-- A value that is neither a text nor octets makes no name of a variable. -/
lemma variableName_eq_error_iff (v : Value) (e : OverrideError) :
    variableName v = .error e ↔
      (∀ s, v ≠ .str s) ∧ (∀ octets, v ≠ .bytes octets) ∧ e = .unnameable v.kind := by
  cases v <;> simp [variableName, eq_comm]

/-- Keys at the top have a path without a variable exactly if they make no name. -/
lemma variableName_pathOf_eq_error_iff {keys : List Value} (hkeys : keys ≠ []) (e : OverrideError) :
    variableName (pathOf (.str "") keys) = .error e ↔
      ∃ kind, e = .unnameable kind ∧ Unnameable keys kind := by
  obtain ⟨before, key, rfl⟩ := (List.eq_nil_or_concat' keys).resolve_left hkeys
  have hempty : (pathOf (.str "") before).isEmpty = before.all Value.isEmpty :=
    isEmpty_pathOf _ _
  have hunnameable : ∀ kind, Unnameable (before ++ [key]) kind ↔
      (∀ b ∈ before, b.isEmpty = true) ∧ (∀ s, key ≠ .str s) ∧
        (∀ octets, key ≠ .bytes octets) ∧ key.kind = kind := by
    intro kind
    constructor
    · rintro ⟨before', key', hsame, h⟩
      obtain ⟨rfl, hkey⟩ := List.append_inj' hsame rfl
      obtain rfl := List.singleton_inj.mp hkey
      exact h
    · exact fun h => ⟨before, key, rfl, h⟩
  rw [pathOf, List.foldl_append, List.foldl_cons, List.foldl_nil, ← pathOf, joined, hempty]
  by_cases hbefore : before.all Value.isEmpty = true
  · rw [if_pos hbefore, variableName_eq_error_iff]
    have hbefore : ∀ b ∈ before, b.isEmpty = true := List.all_eq_true.mp hbefore
    simp only [hunnameable]
    constructor
    · rintro ⟨hstr, hbytes, rfl⟩
      exact ⟨_, rfl, hbefore, hstr, hbytes, rfl⟩
    · rintro ⟨_, rfl, -, hstr, hbytes, rfl⟩
      exact ⟨hstr, hbytes, rfl⟩
  · rw [if_neg hbefore, variableName_eq_error_iff]
    refine iff_of_false (fun h => h.1 _ rfl) ?_
    rintro ⟨kind, -, h⟩
    exact hbefore (List.all_eq_true.mpr ((hunnameable kind).mp h).1)

/-- No variable is set. -/
def Unset (env : Environment) : Prop := ∀ entry ∈ env, ∀ rest, entry.1 ≠ start ++ rest

/-- Without variables a value stays where its path makes a name. -/
lemma leaf_of_unset {env : Environment} (henv : Unset env) (path v : Value) :
    leaf env path v = (variableName path).map fun _ => v := by
  have hname : ∀ rest, env.lookup (start ++ rest) = none := fun rest =>
    List.lookup_eq_none_iff.mpr fun entry h => by
      simpa using (henv entry h rest).symm
  cases path with
  | str s => simp [leaf, variableName, hname, Except.map, bind, Except.bind, pure, Except.pure]
  | bytes octets =>
    simp [leaf, variableName, hname, Except.map, bind, Except.bind, pure, Except.pure]
  | _ => rfl

/-! ### Keys without a path -/

/-- Keys that make no path: one of them is too large a number, or holds one, and there is another
key that it would be joined to, which does not count as absent or comes after it. -/
def Unwritable (keys : List Value) : Prop :=
  ∃ before key after, keys = before ++ key :: after ∧ key.isShowable = false ∧
    ((∃ b ∈ before, b.isEmpty = false) ∨ after ≠ [])

/-- A value that counts as absent has a text. -/
lemma isShowable_of_isEmpty {v : Value} (h : v.isEmpty = true) : v.isShowable = true := by
  cases v with
  | int n =>
    obtain rfl : n = 0 := by simpa [Value.isEmpty] using h
    rfl
  | list items | tuple items | set items | map items =>
    obtain rfl : items = [] := by simpa [Value.isEmpty] using h
    rfl
  | _ => rfl

/-- Keys that make no name of a variable make a path. -/
lemma Unnameable.not_unwritable {keys : List Value} {kind : String} (h : Unnameable keys kind) :
    ¬ Unwritable keys := by
  obtain ⟨before, key, rfl, hbefore, -⟩ := h
  rintro ⟨before', big, after, hkeys, hbig, hother⟩
  have hfull : ∀ b ∈ before, b.isShowable = true := fun b hb => isShowable_of_isEmpty (hbefore b hb)
  rcases List.eq_nil_or_concat' after with rfl | ⟨after, last, rfl⟩
  · obtain ⟨rfl, -⟩ := List.append_inj' hkeys rfl
    obtain ⟨b, hb, h⟩ := hother.resolve_right (by simp)
    rw [hbefore b hb] at h
    cases h
  · rw [← List.cons_append, ← List.append_assoc] at hkeys
    obtain ⟨rfl, -⟩ := List.append_inj' hkeys rfl
    rw [hfull big (by simp)] at hbig
    cases hbig

/-- Behind a key that counts as absent, keys make no path exactly if they make none alone. -/
lemma unwritable_cons_of_isEmpty {key : Value} (hkey : key.isEmpty = true) (keys : List Value) :
    Unwritable (key :: keys) ↔ Unwritable keys := by
  constructor
  · rintro ⟨before, big, after, h, hbig, hother⟩
    rcases before with _ | ⟨first, before⟩
    · obtain ⟨rfl, -⟩ := List.cons.inj h
      rw [isShowable_of_isEmpty hkey] at hbig
      cases hbig
    · obtain ⟨rfl, rfl⟩ := List.cons.inj h
      refine ⟨before, big, after, rfl, hbig, hother.imp_left ?_⟩
      rintro ⟨b, hb, hfull⟩
      rcases List.mem_cons.mp hb with rfl | hb
      · rw [hkey] at hfull; cases hfull
      · exact ⟨b, hb, hfull⟩
  · rintro ⟨before, big, after, rfl, hbig, hother⟩
    refine ⟨key :: before, big, after, rfl, hbig, hother.imp_left ?_⟩
    rintro ⟨b, hb, hfull⟩
    exact ⟨b, List.mem_cons_of_mem _ hb, hfull⟩

/-- Behind another key, keys make no path exactly if one of them has no text, or if they are joined
to the other one and that has none. -/
lemma unwritable_cons_of_not_isEmpty {key : Value} (hkey : key.isEmpty = false)
    (keys : List Value) : Unwritable (key :: keys) ↔
      (key.isShowable = false ∧ keys ≠ []) ∨ ∃ k ∈ keys, k.isShowable = false := by
  constructor
  · rintro ⟨before, big, after, h, hbig, hother⟩
    rcases before with _ | ⟨first, before⟩
    · obtain ⟨rfl, rfl⟩ := List.cons.inj h
      exact .inl ⟨hbig, hother.resolve_left (by simp)⟩
    · obtain ⟨rfl, rfl⟩ := List.cons.inj h
      exact .inr ⟨big, by simp, hbig⟩
  · rintro (⟨hbig, hne⟩ | ⟨big, hmem, hbig⟩)
    · exact ⟨[], key, keys, rfl, hbig, .inr hne⟩
    · obtain ⟨before, after, rfl⟩ := List.append_of_mem hmem
      exact ⟨key :: before, big, after, rfl, hbig, .inl ⟨key, by simp, hkey⟩⟩

/-- The error of a path that cannot be made. -/
lemma join_eq_error_iff (path key : Value) (e : OverrideError) :
    join path key = .error e ↔ e = .unshowable ∧ path.isEmpty = false ∧
      (path.isShowable = false ∨ key.isShowable = false) := by
  unfold join
  cases path.isEmpty <;> cases path.isShowable <;> cases key.isShowable <;> simp [eq_comm]

/-- From a path that does not count as absent a way cannot be made exactly if it leads on from there
and the path or one of the keys has no text. -/
lemma walk_eq_error_iff_of_not_isEmpty {path : Value} (hpath : path.isEmpty = false)
    (keys : List Value) (e : OverrideError) :
    walk path keys = .error e ↔ e = .unshowable ∧
      ((path.isShowable = false ∧ keys ≠ []) ∨ ∃ k ∈ keys, k.isShowable = false) := by
  induction keys generalizing path with
  | nil => exact iff_of_false (fun h => nomatch h) (by simp)
  | cons key rest ih =>
    rw [walk, List.foldlM_cons, bind_eq_error_iff, join_eq_error_iff]
    have hjoined : joined path key = .str (path.display ++ "__" ++ key.display) := by
      simp [joined, hpath]
    have hfull : (joined path key).isEmpty = false := by simp [isEmpty_joined, hpath]
    have hrest := ih hfull
    constructor
    · rintro (⟨rfl, -, h | h⟩ | ⟨_, hjoin, h⟩)
      · exact ⟨rfl, .inl ⟨h, by simp⟩⟩
      · exact ⟨rfl, .inr ⟨key, by simp, h⟩⟩
      · obtain ⟨-, rfl⟩ := (join_eq_ok_iff _ _ _).mp hjoin
        obtain ⟨rfl, ⟨h, -⟩ | ⟨k, hk, h⟩⟩ := hrest.mp h
        · rw [hjoined] at h; cases h
        · exact ⟨rfl, .inr ⟨k, List.mem_cons_of_mem _ hk, h⟩⟩
    · rintro ⟨rfl, h⟩
      by_cases hshow : (path.isShowable && key.isShowable) = true
      · refine .inr ⟨_, (join_eq_ok_iff _ _ _).mpr ⟨by simp [hshow], rfl⟩, hrest.mpr ⟨rfl, .inr ?_⟩⟩
        rw [Bool.and_eq_true] at hshow
        rcases h with ⟨h, -⟩ | ⟨k, hk, h⟩
        · rw [hshow.1] at h; cases h
        · rcases List.mem_cons.mp hk with rfl | hk
          · rw [hshow.2] at h; cases h
          · exact ⟨k, hk, h⟩
      · refine .inl ⟨rfl, hpath, ?_⟩
        rwa [Bool.and_eq_true, not_and_or, Bool.not_eq_true, Bool.not_eq_true] at hshow

/-- Keys at the top lead nowhere exactly if they make no path. -/
lemma walk_eq_error_iff {path : Value} (hpath : path.isEmpty = true) (keys : List Value)
    (e : OverrideError) : walk path keys = .error e ↔ e = .unshowable ∧ Unwritable keys := by
  induction keys generalizing path with
  | nil => exact iff_of_false (fun h => nomatch h) (by simp [Unwritable])
  | cons key rest ih =>
    have hjoin : join path key = .ok key := by simp [join, joined, hpath]
    have hwalk : walk path (key :: rest) = walk key rest := by
      rw [walk, List.foldlM_cons, hjoin]
      rfl
    rw [hwalk]
    cases hkey : key.isEmpty with
    | true => rw [ih hkey, unwritable_cons_of_isEmpty hkey]
    | false => rw [walk_eq_error_iff_of_not_isEmpty hkey, unwritable_cons_of_not_isEmpty hkey]

/-! ### Parts that cannot be overridden -/

/-- A part of a mapping cannot be overridden, though no variable is set: its keys make no path, or
it is a leaf and they make no name. -/
inductive Offends (l : List Value × Value) : OverrideError → Prop where
  /-- Its keys make no path. -/
  | unwritable (h : Unwritable l.1) : Offends l .unshowable
  /-- It is a leaf, and its keys make no name. -/
  | unnameable {kind : String} (hleaf : ∀ entries, l.2 ≠ .map entries)
    (h : Unnameable l.1 kind) : Offends l (.unnameable kind)

/-- Without variables a part of a mapping stays, unless it offends. -/
lemma visit_of_unset {env : Environment} (henv : Unset env) {l : List Value × Value}
    (hkeys : l.1 ≠ []) :
    ((∀ e, ¬ Offends l e) → visit env (.str "") l = .ok l.2) ∧
      ∀ e, Offends l e → visit env (.str "") l = .error e := by
  obtain ⟨keys, v⟩ := l
  have hfails := walk_eq_error_iff (show (Value.str "").isEmpty = true from rfl) keys
  have hname := variableName_pathOf_eq_error_iff hkeys
  cases hwalk : walk (.str "") keys with
  | error e =>
    obtain ⟨rfl, hkeys⟩ := (hfails e).mp hwalk
    have hvisit : visit env (.str "") (keys, v) = .error .unshowable := by
      rw [visit, hwalk]
      rfl
    refine ⟨fun hno => absurd (.unwritable hkeys) (hno _), fun e he => ?_⟩
    rw [hvisit]
    cases he with
    | unwritable => rfl
    | unnameable _ h => exact absurd hkeys h.not_unwritable
  | ok below =>
    obtain rfl := walk_eq_ok hwalk
    have hno : ¬ Unwritable keys := fun h => by
      rw [(hfails _).mpr ⟨rfl, h⟩] at hwalk
      cases hwalk
    by_cases hv : ∃ entries, v = .map entries
    · obtain ⟨entries, rfl⟩ := hv
      refine ⟨fun _ => by rw [visit_map, hwalk]; rfl, fun e he => ?_⟩
      cases he with
      | unwritable h => exact absurd h hno
      | unnameable h => exact absurd rfl (h entries)
    have hv : ∀ entries, v ≠ .map entries := fun entries h => hv ⟨entries, h⟩
    have hvisit : visit env (.str "") (keys, v) =
        (variableName (pathOf (.str "") keys)).map fun _ => v := by
      rw [visit_leaf env _ keys hv, hwalk, ← leaf_of_unset henv]
      rfl
    rw [hvisit]
    refine ⟨fun hnone => ?_, fun e he => ?_⟩
    · cases h : variableName (pathOf (.str "") keys) with
      | ok name => rfl
      | error e =>
        obtain ⟨kind, rfl, hkind⟩ := (hname e).mp h
        exact absurd (.unnameable hv hkind) (hnone _)
    · cases he with
      | unwritable h => exact absurd h hno
      | unnameable _ h => rw [(hname _).mpr ⟨_, rfl, h⟩]; rfl

/-- Without variables a mapping stays if none of its parts offends, and else the first one that does
decides the error. -/
lemma mapping_of_unset {env : Environment} (henv : Unset env) (m : Mapping) :
    ((∀ l ∈ Mapping.parts m, ∀ e, ¬ Offends l e) → mapping env m "" = .ok m) ∧
      ∀ before l after e, Mapping.parts m = before ++ l :: after →
        (∀ b ∈ before, ∀ e, ¬ Offends b e) → Offends l e → mapping env m "" = .error e := by
  have hvisit := fun l (hl : l ∈ Mapping.parts m) =>
    visit_of_unset henv (Mapping.ne_nil_of_mem_parts hl)
  refine ⟨fun h => entriesUnder_of_visit fun l hl => (hvisit l hl).1 (h l hl), ?_⟩
  intro before l after e hparts hbefore hl
  have hmem : ∀ b ∈ before ++ l :: after, b ∈ Mapping.parts m := by simp [hparts]
  refine (entriesUnder_eq_error_iff _ _ _ _).mpr ⟨before, l, after, hparts, fun b hb => ?_, ?_⟩
  · exact ⟨b.2, (hvisit b (hmem b (by simp [hb]))).1 (hbefore b hb)⟩
  · exact (hvisit l (hmem l (by simp))).2 e hl

end Override

/-! ### A document over the defaults -/

/-- Two parts under the same keys, of which both are mappings or none is. -/
def Mapping.Alike (l l' : List Value × Value) : Prop :=
  l.1 = l'.1 ∧ ((∃ entries, l.2 = .map entries) ↔ ∃ entries, l'.2 = .map entries)

/-- A part is like itself. -/
lemma Mapping.Alike.refl (l : List Value × Value) : Alike l l := ⟨rfl, Iff.rfl⟩

/-- Likeness of parts does not depend on their order. -/
lemma Mapping.Alike.symm {l l' : List Value × Value} (h : Alike l l') : Alike l' l :=
  ⟨h.1.symm, h.2.symm⟩

/-- Of two parts alike, the one offends as the other does. -/
lemma Override.Offends.alike {l l' : List Value × Value} {e : OverrideError}
    (h : Offends l' e) (halike : Mapping.Alike l l') : Offends l e := by
  obtain ⟨hkeys, hmap⟩ := halike
  cases h with
  | unwritable h => exact .unwritable (hkeys ▸ h)
  | unnameable hleaf h =>
    refine .unnameable (fun entries hl => ?_) (hkeys ▸ h)
    obtain ⟨entries', hl'⟩ := hmap.mp ⟨entries, hl⟩
    exact hleaf entries' hl'

/-- Texts lead to the parts of a value whose keys are texts, and such parts do not offend. -/
lemma Value.TextKeyed.not_offends {v : Value} (h : v.TextKeyed) {l : List Value × Value}
    (hl : l ∈ v.parts) (e : OverrideError) : ¬ Override.Offends l e := by
  have htexts : ∀ key ∈ l.1, ∃ name, key = .str name := by
    induction h generalizing l with
    | atom h =>
      rw [Value.parts_of_ne_map h] at hl
      simp [List.mem_singleton.mp hl]
    | map hkeys _ ih =>
      rcases List.mem_cons.mp hl with rfl | hl
      · simp
      obtain ⟨e, he, l', hl', rfl⟩ := Mapping.exists_of_mem_parts hl
      exact List.forall_mem_cons.mpr ⟨hkeys e he, ih e he hl'⟩
  rintro (⟨before, key, after, hkeys, hbig, -⟩ | ⟨-, before, key, hkeys, -, hstr, -⟩) <;>
    obtain ⟨name, rfl⟩ := htexts key (by simp [hkeys])
  · cases hbig
  · exact hstr name rfl

namespace Mapping

/-- Keys that are different in a document are different keys of a mapping. -/
lemma sameKey_of_isSameKey {v w : Value} (h : Document.isSameKey v w = false) :
    v.sameKey w = false := by
  unfold Document.isSameKey at h
  split at h
  · cases h
  · exact h

/-- What an entry leads to stands among the parts of a mapping, below the entry's key. -/
lemma mem_parts_of_mem {m : Mapping} {e : Value × Value} (he : e ∈ m) {l : List Value × Value}
    (hl : l ∈ e.2.parts) : (e.1 :: l.1, l.2) ∈ parts m := by
  induction m with
  | nil => cases he
  | cons first rest ih =>
    rw [parts, List.mem_append]
    rcases List.mem_cons.mp he with rfl | he
    · exact .inl (List.mem_map_of_mem hl)
    · exact .inr (ih he)

/-- The parts after a value was written under a key are those from before and those of the value,
if the key has only one spelling there. -/
lemma mem_parts_put {m : Mapping} {key v : Value}
    (hkey : ∀ e ∈ m, e.1.sameKey key = true → e.1 = key) {l : List Value × Value}
    (h : l ∈ parts (put m key v)) :
    l ∈ parts m ∨ ∃ l' ∈ v.parts, l = (key :: l'.1, l'.2) := by
  induction m with
  | nil => simpa [put, parts, eq_comm] using h
  | cons entry rest ih =>
    obtain ⟨hfirst, hrest⟩ := List.forall_mem_cons.mp hkey
    by_cases hsame : entry.1.sameKey key = true
    · rw [put, if_pos hsame, hfirst hsame, parts, List.mem_append, List.mem_map] at h
      rcases h with ⟨l', hl', rfl⟩ | h
      · exact .inr ⟨l', hl', rfl⟩
      · exact .inl (by simp [parts, h])
    · rw [put, if_neg hsame, parts, List.mem_append] at h
      rcases h with h | h
      · exact .inl (by simp [parts, h])
      · exact (ih hrest h).imp_left fun h => by simp [parts, h]

/-- A key of two mappings has one spelling in both, and leads to texts in the lower one. -/
def Agree (updates base : Mapping) : Prop :=
  ∀ e ∈ base, ∀ f ∈ updates, e.1.sameKey f.1 = true → e.1 = f.1 ∧ e.2.TextKeyed

/-- A mapping agrees with one whose keys are texts. -/
lemma Agree.of_textKeyed (updates : Mapping) {base : Mapping} (h : (Value.map base).TextKeyed) :
    Agree updates base := by
  intro e he f _ hsame
  cases h with
  | atom h => exact absurd rfl (h base)
  | map hkeys hvalues =>
    obtain ⟨name, hname⟩ := hkeys e he
    rw [hname, Value.sameKey_str_iff] at hsame
    exact ⟨by rw [hname, hsame], hvalues e he⟩

/-- An entry after a value was written under a key is one from before, or it is under the key. -/
lemma mem_put {m : Mapping} {key v : Value} {e : Value × Value} (h : e ∈ put m key v) :
    e ∈ m ∨ e.1 = key ∨ ∃ e' ∈ m, e'.1.sameKey key = true ∧ e.1 = e'.1 := by
  induction m with
  | nil => exact .inr (.inl (congrArg Prod.fst (List.mem_singleton.mp h)))
  | cons entry rest ih =>
    rw [put] at h
    split at h
    · rename_i hsame
      rcases List.mem_cons.mp h with rfl | h
      · exact .inr (.inr ⟨entry, List.mem_cons_self, hsame, rfl⟩)
      · exact .inl (List.mem_cons_of_mem _ h)
    · rcases List.mem_cons.mp h with rfl | h
      · exact .inl List.mem_cons_self
      · refine (ih h).imp (List.mem_cons_of_mem _) (Or.imp_right ?_)
        rintro ⟨e', he', h⟩
        exact ⟨e', List.mem_cons_of_mem _ he', h⟩

/-- Keys that are left agree with what has been written, since the keys are distinct. -/
lemma Agree.put {key v w : Value} {rest base : Mapping} (h : Agree ((key, v) :: rest) base)
    (hdistinct : ∀ f ∈ rest, key.sameKey f.1 = false) : Agree rest (put base key w) := by
  intro e he f hf hsame
  have hkey : e.1 ≠ key := by
    intro heq
    rw [heq, hdistinct f hf] at hsame
    cases hsame
  rcases mem_put he with he | heq | ⟨e', he', hsame', heq⟩
  · exact h e he f (List.mem_cons_of_mem _ hf) hsame
  · exact absurd heq hkey
  · exact absurd (heq.trans (h e' he' _ List.mem_cons_self hsame').1) hkey

/-- Each part of a mapping laid over another one is like a part of one of the two. -/
lemma exists_alike_of_mem_parts_merge {updates base : Mapping}
    (hupdates : (Value.map updates).WellKeyed) (hagree : Agree updates base)
    {l : List Value × Value} (h : l ∈ parts (merge updates base)) :
    ∃ l', Alike l l' ∧ (l' ∈ parts updates ∨ l' ∈ parts base) := by
  refine merge.induct
    (fun v old => v.WellKeyed → (∀ w, old = some w → w.TextKeyed) →
      ∀ l ∈ (mergeValue v old).parts, ∃ l', Alike l l' ∧
        (l' ∈ v.parts ∨ ∃ w, old = some w ∧ l' ∈ w.parts))
    (fun updates base => (Value.map updates).WellKeyed → Agree updates base →
      ∀ l ∈ parts (merge updates base), ∃ l', Alike l l' ∧ (l' ∈ parts updates ∨ l' ∈ parts base))
    ?both ?value ?nil ?cons updates base hupdates hagree l h
  case both =>
    intro updates base ih hupdates hold l hl
    rw [mergeValue, Value.parts] at hl
    rcases List.mem_cons.mp hl with rfl | hl
    · exact ⟨([], .map updates), ⟨rfl, by simp⟩, .inl List.mem_cons_self⟩
    obtain ⟨l', halike, hl'⟩ := ih hupdates (.of_textKeyed updates (hold _ rfl)) l hl
    refine ⟨l', halike, hl'.imp (List.mem_cons_of_mem _) fun hl' => ?_⟩
    exact ⟨_, rfl, List.mem_cons_of_mem _ hl'⟩
  case value =>
    intro v old hv _ _ l hl
    rw [mergeValue] at hl
    · exact ⟨l, .refl l, .inl hl⟩
    · exact hv
  case nil =>
    intro base _ _ l hl
    exact ⟨l, .refl l, .inr (by rwa [merge] at hl)⟩
  case cons =>
    intro key v rest base ihv ihrest hupdates hagree l hl
    obtain ⟨hdistinct, hwell⟩ := hupdates.of_map
    obtain ⟨hfirst, hdistinct⟩ := List.pairwise_cons.mp hdistinct
    obtain ⟨⟨-, hv⟩, hrest⟩ := List.forall_mem_cons.mp hwell
    have hhead : ∀ e ∈ base, e.1.sameKey key = true → e.1 = key ∧ e.2.TextKeyed :=
      fun e he => hagree e he _ List.mem_cons_self
    have hold : ∀ w, get? base key = some w → ∃ e ∈ base, e.1 = key ∧ e.2 = w ∧ w.TextKeyed := by
      intro w hw
      obtain ⟨e, he, hsame, rfl⟩ := exists_mem_of_get? hw
      obtain ⟨hkey, htext⟩ := hhead e he hsame
      exact ⟨e, he, hkey, rfl, htext⟩
    rw [merge] at hl
    obtain ⟨l₁, halike, hl₁⟩ := ihrest
      (.map hdistinct (fun e he => (hrest e he).1) fun e he => (hrest e he).2)
      (hagree.put fun f hf => sameKey_of_isSameKey (hfirst f hf)) l hl
    rcases hl₁ with hl₁ | hl₁
    · exact ⟨l₁, halike, .inl (by simp [parts, hl₁])⟩
    rcases mem_parts_put (fun e he hsame => (hhead e he hsame).1) hl₁ with hl₁ | ⟨l₂, hl₂, rfl⟩
    · exact ⟨l₁, halike, .inr hl₁⟩
    obtain ⟨l₃, halike', hl₃⟩ :=
      ihv hv (fun w hw => by obtain ⟨-, -, -, -, h⟩ := hold w hw; exact h) l₂ hl₂
    refine ⟨(key :: l₃.1, l₃.2), ⟨halike.1.trans ?_, halike.2.trans halike'.2⟩, ?_⟩
    · exact congrArg (key :: ·) halike'.1
    rcases hl₃ with hl₃ | ⟨w, hw, hl₃⟩
    · exact .inl (mem_parts_of_mem List.mem_cons_self hl₃)
    · obtain ⟨e, he, rfl, rfl, -⟩ := hold w hw
      exact .inr (mem_parts_of_mem he hl₃)

end Mapping

namespace Settings

open Override

/-- Below a text that is not empty nothing offends if all keys have texts. -/
lemma not_offends_str_cons {name : String} (hname : name ≠ "") {keys : List Value}
    (hkeys : ∀ key ∈ keys, key.isShowable = true) (v : Value) (e : OverrideError) :
    ¬ Offends (.str name :: keys, v) e := by
  rintro (⟨before, big, after, h, hbig, -⟩ | ⟨-, before, key, h, hbefore, hstr, -⟩)
  · have hmem : big ∈ before ++ big :: after := List.mem_append_right _ List.mem_cons_self
    rw [← h] at hmem
    rcases List.mem_cons.mp hmem with rfl | hmem
    · cases hbig
    · rw [hkeys big hmem] at hbig
      cases hbig
  · cases before with
    | nil => exact hstr name (List.cons.inj h).1.symm
    | cons first before =>
      obtain rfl := (List.cons.inj h).1
      simpa [Value.isEmpty, hname] using hbefore _ List.mem_cons_self

/-- The defaults have only texts as keys. -/
lemma textKeyed_standard : (Value.map standard.toMapping).TextKeyed := by
  have hsection : ∀ {fields : Mapping}, (∀ e ∈ fields, ∃ name, e.1 = .str name) →
      (∀ e ∈ fields, ∀ entries, e.2 ≠ .map entries) → (Value.map fields).TextKeyed :=
    fun hkeys hvalues => .map hkeys fun e he => .atom (hvalues e he)
  refine .map (by simp [standard, toMapping]) ?_
  simp only [standard, toMapping, List.forall_mem_cons, List.not_mem_nil, false_implies,
    implies_true, and_true]
  exact ⟨hsection (by simp) (by simp), hsection (by simp) (by simp)⟩

/-- Where no part of a document offends, none does after it was laid over the defaults. -/
lemma not_offends_of_mem_merge_standard {entries : Mapping} (h : (Value.map entries).WellKeyed)
    (hparts : ∀ l ∈ Mapping.parts entries, ∀ e, ¬ Offends l e) :
    ∀ l ∈ Mapping.parts (Mapping.merge entries standard.toMapping), ∀ e, ¬ Offends l e := by
  intro l hl e hoffends
  obtain ⟨l', halike, hl' | hl'⟩ := Mapping.exists_alike_of_mem_parts_merge h
    (.of_textKeyed _ textKeyed_standard) hl
  · exact hparts l' hl' e (hoffends.alike halike.symm)
  · exact textKeyed_standard.not_offends (List.mem_cons_of_mem _ hl') e
      (hoffends.alike halike.symm)

/-- **Settings without variables.** Take a file that holds a document, and an environment in which
no variable is set. A document that counts as absent gives the defaults. A mapping is laid over the
defaults. Unless a part of the merged mapping offends, overriding leaves it as it is, and it is
validated. This is so wherever no part of the document offends, and else the first part that does is
the error. Any other document is refused.

**Proof sketch.** Overriding goes part by part (`mapping_of_unset`). The defaults have only texts as
keys, so each part of the merged mapping that offends is like a part of the document. -/
theorem load_unset {files : Files} {env : Environment} {path folder : String}
    {octets : List UInt8} {data : Value} (henv : Unset env)
    (hfile : files (.ofText path) = .file octets folder)
    (hdata : Document.read octets = .ok data) :
    (data.isEmpty = true → load files env (some path) = .ok standard) ∧
      (∀ entries, data = .map entries →
        let merged := Mapping.merge entries standard.toMapping
        ((∀ l ∈ Mapping.parts merged, ∀ e, ¬ Offends l e) →
          mapping env merged "" = .ok merged ∧
            load files env (some path) = (ofValue (.map merged)).mapError .invalid) ∧
        ((∀ l ∈ Mapping.parts entries, ∀ e, ¬ Offends l e) →
          ∀ l ∈ Mapping.parts merged, ∀ e, ¬ Offends l e) ∧
        ∀ before l after e, Mapping.parts merged = before ++ l :: after →
          (∀ b ∈ before, ∀ e, ¬ Offends b e) → Offends l e →
          load files env (some path) = .error (.override e)) ∧
      (data.isEmpty = false → (∀ entries, data ≠ .map entries) →
        load files env (some path) = .error (.noMapping (.ofText path))) := by
  refine ⟨fun hempty => ?_, fun entries hentries => ?_, ?_⟩
  · have hnone := (mapping_of_unset henv standard.toMapping).1 fun l hl =>
      textKeyed_standard.not_offends (List.mem_cons_of_mem _ hl)
    rw [(IsDocument.empty hfile hdata hempty).load_eq, layered, Mapping.merge, hnone]
    rfl
  · subst hentries
    have hdocument := IsDocument.mapping hfile hdata
    obtain ⟨hstays, hfails⟩ := mapping_of_unset henv (Mapping.merge entries standard.toMapping)
    refine ⟨fun hparts => ⟨hstays hparts, ?_⟩,
      not_offends_of_mem_merge_standard hdocument.wellKeyed, ?_⟩
    · rw [hdocument.load_eq, layered, hstays hparts]
      rfl
    · intro before l after e hparts hbefore hl
      rw [hdocument.load_eq, layered, hfails before l after e hparts hbefore hl]
      rfl
  · intro hfull hmap
    have hdocument : Loading.document files (.ofText path) = .ok (data, folder) := by
      simp only [Loading.document, hfile, hdata]
    rw [load]
    simp only [hdocument]
    show ofDocument env (.ofText path) data = _
    unfold ofDocument
    rw [if_neg (by simp [hfull])]
    cases data with
    | map entries => exact absurd rfl (hmap entries)
    | _ => rfl

/-- A mapping with keys of several kinds below a text. -/
theorem load_unset_odd_keys :
    let octets := Utf8.encode "extra: {1: {null: x}}\nmatching:\n  literal: on\n".toList
    let entries : Mapping :=
      [(.str "extra", .map [(.int 1, .map [(.null, .str "x")])]),
        (.str "matching", .map [(.str "literal", .bool true)])]
    let files : Files := fun _ => .file octets "work"
    let env : Environment := [("HOME", "/home")]
    Unset env ∧ Document.read octets = .ok (.map entries) ∧
      (∀ l ∈ Mapping.parts entries, ∀ e, ¬ Offends l e) ∧
      load files env (some "settings.yml") = .ok ⟨⟨false, true⟩, .standard⟩ := by
  intro octets entries files env
  have henv : Unset env := by
    intro entry hentry rest h
    obtain rfl := List.mem_singleton.mp hentry
    simpa [start] using congrArg String.toList h
  have hdata : Document.read octets = .ok (.map entries) :=
    eq_ok_of_toOption (by decide +kernel)
  have hparts : ∀ l ∈ Mapping.parts entries, ∀ e, ¬ Offends l e := by
    intro l hl e
    simp only [entries, Mapping.parts, Value.parts, List.map_cons, List.map_nil, List.append_nil,
      List.cons_append, List.nil_append, List.mem_cons, List.not_mem_nil, or_false] at hl
    rcases hl with rfl | rfl | rfl | rfl | rfl <;>
      exact not_offends_str_cons (by decide) (by decide) _ _
  have hfile : files (.ofText "settings.yml") = .file octets "work" := rfl
  obtain ⟨-, hmapping, -⟩ := load_unset henv hfile hdata
  obtain ⟨hstays, hmerged, -⟩ := hmapping entries rfl
  exact ⟨henv, hdata, hparts, (hstays (hmerged hparts)).2⟩

/-- A mapping that would be validated as the defaults gives no settings, since its key is a number.
Nor does one with a number of too many digits below a text. And an empty sequence gives the defaults
although it is no mapping. -/
theorem load_unset_fails :
    let number : Files := fun _ => .file (Utf8.encode "1: 2\n".toList) "work"
    let sequence : Files := fun _ => .file (Utf8.encode "[]\n".toList) "work"
    let n : Value := .int (Int.pow 16 4000)
    let large : Mapping := [(.str "a", .map [(n, .int 1)])]
    Document.read (Utf8.encode "1: 2\n".toList) = .ok (.map [(.int 1, .int 2)]) ∧
      ofValue (.map (Mapping.merge [(.int 1, .int 2)] standard.toMapping)) = .ok standard ∧
      load number [] (some "c.yml") = .error (.override (.unnameable "int")) ∧
      ofValue (.map (Mapping.merge large standard.toMapping)) = .ok standard ∧
      (∀ files path, IsDocument files path large →
        load files [] path = .error (.override .unshowable)) ∧
      Document.read (Utf8.encode "[]\n".toList) = .ok (.list []) ∧
      load sequence [] (some "c.yml") = .ok standard := by
  intro number sequence n large
  have hn : n.isShowable = false := by decide +kernel
  have hnumber : Document.read (Utf8.encode "1: 2\n".toList) = .ok (.map [(.int 1, .int 2)]) :=
    eq_ok_of_toOption (by decide +kernel)
  refine ⟨hnumber, rfl, ?_, rfl, fun files path hlarge => ?_, eq_ok_of_toOption (by decide +kernel),
    eq_ok_of_toOption (by decide +kernel)⟩
  · rw [(.mapping rfl hnumber : IsDocument number (some "c.yml") _).load_eq]
    rfl
  · have hbefore : ∀ b ∈ Mapping.parts standard.toMapping ++ [([.str "a"], .map [(n, .int 1)])],
        ∀ e, ¬ Offends b e := by
      refine List.forall_mem_append.mpr ⟨fun b hb => ?_, List.forall_mem_singleton.mpr ?_⟩
      · exact textKeyed_standard.not_offends (List.mem_cons_of_mem _ hb)
      · exact not_offends_str_cons (by decide) (by simp) _
    have hmerged := (mapping_of_unset (show Unset [] by simp [Unset])
      (Mapping.merge [(.str "a", .map [(n, .int 1)])] standard.toMapping)).2 _
      ([.str "a", n], .int 1) [] .unshowable rfl hbefore
      (.unwritable ⟨[.str "a"], n, [], rfl, hn, .inl ⟨_, List.mem_cons_self, rfl⟩⟩)
    rw [hlarge.load_eq, layered, hmerged]
    rfl

end Settings

end RunnerAtlas
