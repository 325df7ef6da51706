import RunnerAtlas.Calendar
import RunnerAtlas.Decimal.Binary64

/-!
# Values

What a document holds before it is checked against a model: scalars, sequences, sets and mappings
nested to any depth.

## Main definitions

* `RunnerAtlas.Value` — the values.
* `RunnerAtlas.Value.kind` — the name of a value's kind.
* `RunnerAtlas.Value.isEmpty` — the values that count as absent.
* `RunnerAtlas.Value.sameKey` — when two values are one key of a mapping.
-/

set_option autoImplicit false

namespace RunnerAtlas

open Calendar

/-- A value of a document. -/
inductive Value where
  /-- The absent value. -/
  | null
  /-- A truth value. -/
  | bool (b : Bool)
  /-- A whole number. -/
  | int (n : Int)
  /-- A floating-point number. -/
  | float (x : Binary64)
  /-- A text. -/
  | str (s : String)
  /-- Octets. -/
  | bytes (octets : List UInt8)
  /-- A day. -/
  | date (d : Date)
  /-- A moment. -/
  | moment (t : Moment)
  /-- A sequence. -/
  | list (items : List Value)
  /-- A sequence of fixed length. -/
  | tuple (items : List Value)
  /-- A set, in the order in which its members were given. -/
  | set (items : List Value)
  /-- A mapping, in the order in which its keys were given. -/
  | map (entries : List (Value × Value))

instance : Inhabited Value := ⟨.null⟩

namespace Value

/-- The name of a value's kind, as messages give it. -/
def kind : Value → String
  | null => "NoneType"
  | bool _ => "bool"
  | int _ => "int"
  | float _ => "float"
  | str _ => "str"
  | bytes _ => "bytes"
  | date _ => "datetime.date"
  | moment _ => "datetime.datetime"
  | list _ => "list"
  | tuple _ => "tuple"
  | set _ => "set"
  | map _ => "dict"

/-- Whether a value counts as absent: nothing, false, a zero, or a collection or text without
members. -/
def isEmpty : Value → Bool
  | null => true
  | bool b => !b
  | int n => n == 0
  | float x => x.isZero
  | str s => s == ""
  | bytes octets => octets.isEmpty
  | date _ => false
  | moment _ => false
  | list items => items.isEmpty
  | tuple items => items.isEmpty
  | set items => items.isEmpty
  | map entries => entries.isEmpty

/-- The number that a truth value or a number stands for where numbers are compared. -/
def number? : Value → Option (Int ⊕ Binary64)
  | bool b => some (.inl (if b then 1 else 0))
  | int n => some (.inl n)
  | float x => some (.inr x)
  | _ => none

/-- Equality of numbers of either kind. -/
def sameNumber : Int ⊕ Binary64 → Int ⊕ Binary64 → Bool
  | .inl m, .inl n => m == n
  | .inl n, .inr x => x.equalsInt n
  | .inr x, .inl n => x.equalsInt n
  | .inr x, .inr y => x.same y

mutual

/-- Whether two values are one key of a mapping: equal numbers of any kind are one key, truth
values counting as zero and one; lists, sets and mappings are no keys. -/
def sameKey : Value → Value → Bool
  | null, null => true
  | bool a, w => (w.number?.map (sameNumber (.inl (if a then 1 else 0)))).getD false
  | int m, w => (w.number?.map (sameNumber (.inl m))).getD false
  | float x, w => (w.number?.map (sameNumber (.inr x))).getD false
  | str s, str t => s == t
  | bytes s, bytes t => s == t
  | date d, date e => d == e
  | moment s, moment t => s.same t
  | tuple vs, tuple ws => sameKeys vs ws
  | _, _ => false

/-- Whether two sequences have the same length and pairwise the same keys. -/
def sameKeys : List Value → List Value → Bool
  | [], [] => true
  | v :: vs, w :: ws => sameKey v w && sameKeys vs ws
  | _, _ => false

end

/-- The text of a value that is a text. -/
def text? : Value → Option String
  | str s => some s
  | _ => none

/-- The entries of a value that is a mapping. -/
def entries? : Value → Option (List (Value × Value))
  | map entries => some entries
  | _ => none

/-- A text is the same key as exactly itself. -/
theorem sameKey_str_iff (s : String) (v : Value) : sameKey (str s) v = true ↔ v = str s := by
  cases v with
  | str t => simpa [sameKey] using ⟨Eq.symm, Eq.symm⟩
  | _ => simp [sameKey]

end Value

end RunnerAtlas
