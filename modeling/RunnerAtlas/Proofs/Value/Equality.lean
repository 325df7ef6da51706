import RunnerAtlas.Value.Basic

set_option relaxedAutoImplicit false
set_option autoImplicit false

/-!
# Equality of values

Whether two values are the same in every kind, member and order is decided member by member, so that
the value of a document can be compared with an expected one.

## Main definitions

* `RunnerAtlas.Value.equals` — whether two values are the same.

## Main results

* `RunnerAtlas.Value.equals_iff` — the test decides equality.
-/

namespace RunnerAtlas.Value

mutual

/-- Whether two values are the same. -/
def equals : Value → Value → Bool
  | null, null => true
  | bool a, bool b => a == b
  | int m, int n => m == n
  | float x, float y => decide (x = y)
  | str s, str t => s == t
  | bytes s, bytes t => s == t
  | date d, date e => decide (d = e)
  | moment s, moment t => decide (s = t)
  | list vs, list ws => equalsAll vs ws
  | tuple vs, tuple ws => equalsAll vs ws
  | set vs, set ws => equalsAll vs ws
  | map es, map fs => equalsEntries es fs
  | _, _ => false

/-- Whether two sequences have the same members in the same order. -/
def equalsAll : List Value → List Value → Bool
  | [], [] => true
  | v :: vs, w :: ws => equals v w && equalsAll vs ws
  | _, _ => false

/-- Whether two mappings have the same entries in the same order. -/
def equalsEntries : List (Value × Value) → List (Value × Value) → Bool
  | [], [] => true
  | (k, v) :: es, (l, w) :: fs => equals k l && equals v w && equalsEntries es fs
  | _, _ => false

end

mutual

/-- The test decides whether two values are equal. -/
theorem equals_iff : (v w : Value) → (v.equals w = true ↔ v = w)
  | null, w => by cases w <;> simp [equals]
  | bool _, w => by cases w <;> simp [equals]
  | int _, w => by cases w <;> simp [equals]
  | float _, w => by cases w <;> simp [equals]
  | str _, w => by cases w <;> simp [equals]
  | bytes _, w => by cases w <;> simp [equals]
  | date _, w => by cases w <;> simp [equals]
  | moment _, w => by cases w <;> simp [equals]
  | list vs, w => by cases w <;> simp [equals, equalsAll_iff vs]
  | tuple vs, w => by cases w <;> simp [equals, equalsAll_iff vs]
  | set vs, w => by cases w <;> simp [equals, equalsAll_iff vs]
  | map es, w => by cases w <;> simp [equals, equalsEntries_iff es]

/-- The test decides whether two sequences are equal. -/
theorem equalsAll_iff : (vs ws : List Value) → (equalsAll vs ws = true ↔ vs = ws)
  | [], ws => by cases ws <;> simp [equalsAll]
  | v :: vs, ws => by cases ws <;> simp [equalsAll, equals_iff v, equalsAll_iff vs]

/-- The test decides whether two mappings are equal. -/
theorem equalsEntries_iff :
    (es fs : List (Value × Value)) → (equalsEntries es fs = true ↔ es = fs)
  | [], fs => by cases fs <;> simp [equalsEntries]
  | (k, v) :: es, fs => by
    cases fs with
    | nil => simp [equalsEntries]
    | cons f fs =>
      simp [equalsEntries, equals_iff k, equals_iff v, equalsEntries_iff es, Prod.ext_iff]

end

instance : DecidableEq Value := fun v w => decidable_of_iff _ (equals_iff v w)

end RunnerAtlas.Value
