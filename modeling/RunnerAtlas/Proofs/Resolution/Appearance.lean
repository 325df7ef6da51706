import Mathlib.Data.List.Induction
import Mathlib.Data.List.Nodup
import Mathlib.Tactic.Lemma
import RunnerAtlas.Resolution

set_option relaxedAutoImplicit false
set_option autoImplicit false

/-!
# Names in the order in which they first come

Names are gone through from left to right, and a name that was found before is passed over. What is
found are the names of the list, each once, in the order of the places where they first come.

## Main definitions

* `RunnerAtlas.Resolution.InOrderOfAppearance` — names in the order in which a list has them first.

## Main results

* `RunnerAtlas.Resolution.distinctNames_concat` — what one more name adds.
* `RunnerAtlas.Resolution.mem_distinctNames`,
  `RunnerAtlas.Resolution.inOrderOfAppearance_distinctNames` — which names are found, and in which
  order.
-/

namespace RunnerAtlas.Resolution

/-- Names in the order of the places where a list has them first. -/
def InOrderOfAppearance (found names : List String) : Prop :=
  found.Pairwise fun a b => names.idxOf a < names.idxOf b

namespace InOrderOfAppearance

variable {found names : List String}

/-- Names in order are distinct. -/
lemma nodup (h : InOrderOfAppearance found names) : found.Nodup := by
  refine h.imp ?_
  rintro a _ hlt rfl
  exact Nat.lt_irrefl _ hlt

/-- Some of the names in order are in order. -/
lemma filter (h : InOrderOfAppearance found names) (p : String → Bool) :
    InOrderOfAppearance (found.filter p) names :=
  List.Pairwise.filter p h

/-- Names of a list stay in order when the list goes on. -/
lemma append (h : InOrderOfAppearance found names) (hmem : ∀ a ∈ found, a ∈ names)
    (others : List String) : InOrderOfAppearance found (names ++ others) := by
  refine List.Pairwise.imp_of_mem ?_ h
  intro a b ha hb hlt
  rw [List.idxOf_append_of_mem (hmem a ha), List.idxOf_append_of_mem (hmem b hb)]
  exact hlt

/-- A new name at the end of a list comes after the names of the list. -/
lemma concat (h : InOrderOfAppearance found names) (hmem : ∀ a ∈ found, a ∈ names) {name : String}
    (hnew : name ∉ names) : InOrderOfAppearance (found ++ [name]) (names ++ [name]) := by
  refine List.pairwise_append.mpr ⟨h.append hmem [name], List.pairwise_singleton _ _, ?_⟩
  intro a ha b hb
  rw [List.mem_singleton.mp hb, List.idxOf_append_of_mem (hmem a ha),
    List.idxOf_append_of_notMem hnew]
  have hlt := List.idxOf_lt_length_iff.mpr (hmem a ha)
  omega

end InOrderOfAppearance

/-- One more name is put behind those found, unless it is one of them. -/
lemma distinctNames_concat_eq (names : List String) (name : String) :
    distinctNames (names ++ [name]) =
      if name ∈ distinctNames names then distinctNames names
      else distinctNames names ++ [name] := by
  simp only [distinctNames, List.foldl_append, List.foldl_cons, List.foldl_nil,
    List.contains_iff_mem, List.mem_reverse]
  split
  · rfl
  · rw [List.reverse_cons]

/-- The names that are found are those of the list. -/
theorem mem_distinctNames {name : String} {names : List String} :
    name ∈ distinctNames names ↔ name ∈ names := by
  induction names using List.reverseRecOn with
  | nil => exact Iff.rfl
  | append_singleton names last ih =>
    rw [distinctNames_concat_eq, List.mem_append, List.mem_singleton]
    split
    · rename_i hlast
      constructor
      · exact fun h => Or.inl (ih.mp h)
      · rintro (h | rfl)
        · exact ih.mpr h
        · exact hlast
    · rw [List.mem_append, List.mem_singleton, ih]

/-- One more name is found, behind those found before, exactly if the list did not have it. -/
lemma distinctNames_concat (names : List String) (name : String) :
    distinctNames (names ++ [name]) =
      distinctNames names ++ if name ∈ names then [] else [name] := by
  simp only [distinctNames_concat_eq, mem_distinctNames]
  split
  · rw [List.append_nil]
  · rfl

/-- **Order of appearance.** The names are found in the order of the places where they first come.

**Proof sketch.** Induction from the end of the list. One more name leaves the places of those
before it as they are, and its own place is behind them. -/
theorem inOrderOfAppearance_distinctNames (names : List String) :
    InOrderOfAppearance (distinctNames names) names := by
  induction names using List.reverseRecOn with
  | nil => exact List.Pairwise.nil
  | append_singleton names last ih =>
    have hmem : ∀ a ∈ distinctNames names, a ∈ names := fun a ha => mem_distinctNames.mp ha
    rw [distinctNames_concat]
    split
    · rw [List.append_nil]
      exact ih.append hmem [last]
    · rename_i hnew
      exact ih.concat hmem hnew

end RunnerAtlas.Resolution
