/-!
# Runs of names

The names of characters with consecutive code points often begin alike. A run writes this beginning
only once.

## Main definitions

* `RunnerAtlas.Text.CharacterName.Run` — the names of consecutive code points.
* `RunnerAtlas.Text.CharacterName.Run.find?` — the code point that has a name in a run.
-/

set_option autoImplicit false

namespace RunnerAtlas.Text.CharacterName

/-- The names of consecutive code points. -/
structure Run where
  /-- The first code point. -/
  first : Nat
  /-- What all the names begin with. -/
  start : String
  /-- What they go on with, on lines and with semicolons between them. -/
  rests : List String

/-- What a name goes on with after a beginning. -/
def after? (start : String) (name : List Char) : Option (List Char) :=
  if start.toList.isPrefixOf name then some (name.drop start.length) else none

/-- The place of a text among those between semicolons, the one at the front being read. -/
def placeIn (text : List Char) : Nat → List Char → List Char → Option Nat
  | place, current, [] => if current.reverse = text then some place else none
  | place, current, c :: rest =>
    if c = ';' then
      if current.reverse = text then some place else placeIn text (place + 1) [] rest
    else placeIn text place (c :: current) rest

/-- The code point that has a name in a run. -/
def Run.find? (run : Run) (name : List Char) : Option Nat := do
  let rest ← after? run.start name
  let place ← placeIn rest 0 [] (";".intercalate run.rests).toList
  return run.first + place

end RunnerAtlas.Text.CharacterName
