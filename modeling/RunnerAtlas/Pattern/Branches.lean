import RunnerAtlas.Pattern.Bracket

/-!
# Branches of an alternation

Sequences that are alternatives to each other are joined to one sequence. What they begin with in
common is taken out, and alternatives of one character each become a set.

## Main definitions

* `RunnerAtlas.Pattern.takeCommon` — the common beginning of branches.
* `RunnerAtlas.Pattern.asSet?` — branches as members of one set.
* `RunnerAtlas.Pattern.joinBranches` — branches as one sequence.
-/

set_option autoImplicit false

namespace RunnerAtlas.Pattern

/-- The leaves that a branch and all others begin with, what is left of the branch and what is
left of the others. -/
def takeCommon : List Node → List (List Node) → List Node × List Node × List (List Node)
  | [], others => ([], [], others)
  | n :: rest, others =>
    if n.isLeaf && others.all fun branch => branch.head? == some n then
      let (common, first, others) := takeCommon rest (others.map List.tail)
      (n :: common, first, others)
    else ([], n :: rest, others)

/-- The members of the set that a branch of one character stands for. -/
def branchItems? : List Node → Option (List SetItem)
  | [.char code] => some [.char code]
  | [.set false items] => some items
  | _ => none

/-- The members of the set that branches of one character each stand for. -/
def asSet? (branches : List (List Node)) : Option (List SetItem) :=
  (branches.mapM branchItems?).map List.flatten

/-- Branches as one sequence. -/
def joinBranches : List (List Node) → List Node
  | [] => []
  | [branch] => branch
  | branch :: others =>
    let (common, first, others) := takeCommon branch others
    match asSet? (first :: others) with
    | some items => common ++ [.set false (distinct items)]
    | none => common ++ [Node.ofBranches (first :: others)]

end RunnerAtlas.Pattern
