import RunnerAtlas.Value.Basic

/-!
# Mappings in order of insertion

A mapping is the list of its entries in the order in which their keys first came. Writing under a
key that is there keeps the place and the first spelling of the key and takes the new value.

## Main definitions

* `RunnerAtlas.Mapping` — the entries.
* `RunnerAtlas.Mapping.get?`, `RunnerAtlas.Mapping.find?` — the value under a key, or a text key.
* `RunnerAtlas.Mapping.put` — an entry written.
* `RunnerAtlas.Mapping.ofEntries` — entries written one after the other.
-/

set_option autoImplicit false

namespace RunnerAtlas

/-- The entries of a mapping in order of insertion. -/
abbrev Mapping := List (Value × Value)

namespace Mapping

/-- The value under a key. -/
def get? (entries : Mapping) (key : Value) : Option Value :=
  (entries.find? fun entry => entry.1.sameKey key).map (·.2)

/-- The value under a text key. -/
def find? (entries : Mapping) (name : String) : Option Value := get? entries (.str name)

/-- The value under a text key, the absent value if there is none. -/
def findD (entries : Mapping) (name : String) : Value := (find? entries name).getD .null

/-- A value written under a key. -/
def put : Mapping → Value → Value → Mapping
  | [], key, value => [(key, value)]
  | entry :: rest, key, value =>
    if entry.1.sameKey key then (entry.1, value) :: rest else entry :: put rest key value

/-- Entries written one after the other into a mapping. -/
def putAll (entries updates : Mapping) : Mapping :=
  updates.foldl (fun entries entry => put entries entry.1 entry.2) entries

/-- The mapping of entries in which keys may be repeated. -/
def ofEntries (entries : List (Value × Value)) : Mapping := putAll [] entries

/-- Writing under a key of a mapping that lacks it appends the entry. -/
theorem put_of_absent (entries : Mapping) (key value : Value)
    (h : ∀ entry ∈ entries, entry.1.sameKey key = false) :
    put entries key value = entries ++ [(key, value)] := by
  induction entries with
  | nil => rfl
  | cons entry rest ih =>
    have hfirst := h entry (by simp)
    simp only [put, hfirst, List.cons_append]
    simp [ih fun e he => h e (by simp [he])]

/-- Writing keeps the keys and their order, or appends one key. -/
theorem map_fst_put (entries : Mapping) (key value : Value) :
    (put entries key value).map (·.1) = entries.map (·.1) ∨
      (put entries key value).map (·.1) = entries.map (·.1) ++ [key] := by
  induction entries with
  | nil => right; rfl
  | cons entry rest ih =>
    by_cases h : entry.1.sameKey key = true
    · left; simp [put, h]
    · rcases ih with ih | ih
      · left; simp [put, h, ih]
      · right; simp [put, h, ih]

end Mapping

end RunnerAtlas
