/-!
# Paths

A path is written as names between slashes. Empty names and single dots say nothing and are left
out, while two dots stay: what they lead to depends on the files.

## Main definitions

* `RunnerAtlas.Path` — a path.
* `RunnerAtlas.Path.ofText`, `RunnerAtlas.Path.text` — reading and writing.
-/

set_option autoImplicit false

namespace RunnerAtlas

/-- A path. -/
structure Path where
  /-- The slashes before the first name. -/
  root : String
  /-- The names. -/
  names : List String
  deriving DecidableEq

namespace Path

/-- The root of a path that begins with a number of slashes. Exactly two have a meaning of their
own; more than two count as one. -/
def rootOf (slashes : Nat) : String :=
  match slashes with
  | 0 => ""
  | 2 => "//"
  | _ => "/"

/-- The path that a text spells. -/
def ofText (text : String) : Path :=
  ⟨rootOf (text.toList.takeWhile (· == '/')).length,
    (text.splitOn "/").filter fun name => name != "" && name != "."⟩

/-- Whether a path starts at the root of all files. -/
def isAbsolute (p : Path) : Bool := p.root != ""

/-- The text of a path. A path without root and names is a dot. -/
def text (p : Path) : String :=
  if p.root = "" ∧ p.names = [] then "." else p.root ++ String.intercalate "/" p.names

end Path

end RunnerAtlas
