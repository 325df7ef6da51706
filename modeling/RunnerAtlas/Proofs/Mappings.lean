import Mathlib.Tactic.Lemma
import RunnerAtlas.Value.Mapping

set_option relaxedAutoImplicit false
set_option autoImplicit false

/-!
# Finding what was written into a mapping

What a text key finds after a value was written under a text key, or after a text key was renamed.

## Main definitions

* `RunnerAtlas.Mapping.rename` — a mapping with one of its text keys renamed.

## Main results

* `RunnerAtlas.Mapping.find?_put_self`, `RunnerAtlas.Mapping.find?_put_of_ne` — writing.
* `RunnerAtlas.Mapping.find?_rename_new`, `RunnerAtlas.Mapping.find?_rename_of_ne` — renaming.
-/

namespace RunnerAtlas

/-- Exactly a text itself is the same key as the text. -/
lemma Value.sameKey_eq_str_iff (v : Value) (s : String) :
    v.sameKey (.str s) = true ↔ v = .str s := by
  cases v <;> simp [sameKey, number?]

/-- Two texts are the same key exactly if they are equal. -/
@[simp] lemma Value.sameKey_str_str (s t : String) : (str s).sameKey (.str t) = decide (s = t) := by
  by_cases h : s = t <;> simp [sameKey, h]

namespace Mapping

/-- The entries with one text key in place of another one. -/
def rename (entries : Mapping) (old new : String) : Mapping :=
  entries.map fun entry => if entry.1.sameKey (.str old) then (.str new, entry.2) else entry

variable {name old new : String} {entries : Mapping}

/-- In an empty mapping nothing is found. -/
@[simp] lemma find?_nil (name : String) : find? [] name = none := rfl

/-- A text key finds the value of the first entry if that is under the key, and otherwise what it
finds among the others. -/
lemma find?_cons (entry : Value × Value) (rest : Mapping) (name : String) :
    find? (entry :: rest) name =
      if entry.1.sameKey (.str name) then some entry.2 else find? rest name := by
  unfold find? get?
  rw [List.find?_cons]
  cases entry.1.sameKey (.str name) <;> rfl

/-! ### Writing -/

/-- The value that was written is found. -/
lemma find?_put_self (entries : Mapping) (name : String) (v : Value) :
    find? (put entries (.str name) v) name = some v := by
  induction entries with
  | nil => simp [put, find?_cons]
  | cons entry rest ih =>
    by_cases h : entry.1.sameKey (.str name) = true
    · simp [put, find?_cons, h]
    · simp [put, find?_cons, h, ih]

/-- A text key finds what it found before a value was written under a key that is not the text. -/
lemma find?_put_of_ne_str (entries : Mapping) {key : Value} (h : key ≠ .str name) (v : Value) :
    find? (put entries key v) name = find? entries name := by
  induction entries with
  | nil => simp [put, find?_cons, Value.sameKey_eq_str_iff, h]
  | cons entry rest ih =>
    by_cases hkey : entry.1.sameKey key = true
    · have hname : ¬ entry.1.sameKey (.str name) = true := by
        intro hname
        rw [(Value.sameKey_eq_str_iff _ _).mp hname, Value.sameKey_str_iff] at hkey
        exact h hkey
      simp [put, find?_cons, hkey, hname]
    · simp [put, find?_cons, hkey, ih]

/-- Another key finds what it found before. -/
lemma find?_put_of_ne (entries : Mapping) (h : name ≠ new) (v : Value) :
    find? (put entries (.str new) v) name = find? entries name :=
  find?_put_of_ne_str entries (fun heq => h (Value.str.inj heq).symm) v

/-! ### Renaming -/

/-- A key that takes no part in a renaming finds what it found before. -/
lemma find?_rename_of_ne (entries : Mapping) (hold : name ≠ old) (hnew : name ≠ new) :
    find? (rename entries old new) name = find? entries name := by
  induction entries with
  | nil => rfl
  | cons entry rest ih =>
    rw [rename, List.map_cons, ← rename, find?_cons, find?_cons, ih]
    by_cases h : entry.1.sameKey (.str old) = true
    · have hname : ¬ entry.1.sameKey (.str name) = true := by
        rw [(Value.sameKey_eq_str_iff _ _).mp h]
        simp [Ne.symm hold]
      simp [h, hname, Ne.symm hnew]
    · simp [h]

/-- The new key finds what the old one found, if nothing stood under it before. -/
lemma find?_rename_new (h : find? entries new = none) :
    find? (rename entries old new) new = find? entries old := by
  induction entries with
  | nil => rfl
  | cons entry rest ih =>
    rw [find?_cons] at h
    split at h
    · cases h
    · rename_i hnew
      rw [rename, List.map_cons, ← rename, find?_cons, find?_cons, ih h]
      by_cases hold : entry.1.sameKey (.str old) = true
      · simp [hold]
      · simp [hold, hnew]

/-- The old key finds nothing any more. -/
lemma find?_rename_old (entries : Mapping) (h : old ≠ new) :
    find? (rename entries old new) old = none := by
  induction entries with
  | nil => rfl
  | cons entry rest ih =>
    rw [rename, List.map_cons, ← rename, find?_cons, ih]
    by_cases hold : entry.1.sameKey (.str old) = true
    · simp [hold, Ne.symm h]
    · simp [hold]

end Mapping

end RunnerAtlas
