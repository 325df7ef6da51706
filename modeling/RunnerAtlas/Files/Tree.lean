import RunnerAtlas.Files.Path

/-!
# Files

What reading needs to know about files is what stands at a path. A tree of files in memory answers
that for a run without a disk.

## Main definitions

* `RunnerAtlas.Found` — what stands at a path.
* `RunnerAtlas.Files` — files, by path.
* `RunnerAtlas.Tree` — a tree of files in memory, with `Tree.files`.
-/

set_option autoImplicit false

namespace RunnerAtlas

/-- What stands at a path. -/
inductive Found where
  /-- Nothing. -/
  | missing
  /-- A directory. -/
  | directory
  /-- A file with its octets, in a directory of a name. -/
  | file (octets : List UInt8) (folder : String)
  deriving DecidableEq

/-- Files, by path. -/
abbrev Files := Path → Found

/-- A tree of files in memory. -/
structure Tree where
  /-- The names that lead from the root to the current directory. -/
  home : List String
  /-- The names that lead from the current directory to each file, with its octets, or to a
  directory. Of two entries with the same names the later one counts. -/
  entries : List (List String × Option (List UInt8))

namespace Tree

/-- Whether a directory stands at a place, given by the names that lead there from the root: the
current directory, one that is listed, or one on the way to another place. -/
def isDirectory (t : Tree) (place : List String) : Bool :=
  place.isPrefixOf t.home || t.entries.any fun entry =>
    let full := t.home ++ entry.1
    place.isPrefixOf full && (place != full || entry.2.isNone)

/-- The octets of the file at a place. -/
def octets? (t : Tree) (place : List String) : Option (List UInt8) :=
  (t.entries.reverse.find? fun entry => t.home ++ entry.1 == place).bind Prod.snd

/-- The place that names lead to from another one. Each name is looked up in a directory, and two
dots lead back. -/
def follow (t : Tree) : List String → List String → Option (List String)
  | place, [] => some place
  | place, name :: rest =>
    if t.isDirectory place then
      t.follow (if name = ".." then place.dropLast else place ++ [name]) rest
    else none

/-- What stands at a path. -/
def files (t : Tree) : Files := fun path =>
  match t.follow (if path.isAbsolute then [] else t.home) path.names with
  | none => .missing
  | some place =>
    match t.octets? place with
    | some octets => .file octets (place.dropLast.getLast?.getD "")
    | none => if t.isDirectory place then .directory else .missing

end Tree

end RunnerAtlas
