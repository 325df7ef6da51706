import RunnerAtlas.Value.Mapping

/-!
# Merging of mappings

One mapping is laid over another. Where both have a mapping under a key the two are merged in
turn; elsewhere the upper one's value counts.

## Main definitions

* `RunnerAtlas.Mapping.mergeValue` — a value laid over another.
* `RunnerAtlas.Mapping.merge` — a mapping laid over another.
-/

set_option autoImplicit false

namespace RunnerAtlas.Mapping

mutual

/-- A value laid over another one, if there is one. -/
def mergeValue : Value → Option Value → Value
  | .map updates, some (.map base) => .map (merge updates base)
  | v, _ => v

/-- The entries of a mapping laid over another one. -/
def merge : List (Value × Value) → List (Value × Value) → List (Value × Value)
  | [], base => base
  | (key, value) :: rest, base => merge rest (put base key (mergeValue value (get? base key)))

end

end RunnerAtlas.Mapping
