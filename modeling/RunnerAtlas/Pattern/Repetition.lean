import RunnerAtlas.Pattern.Escape

/-!
# Bounds of repetitions

A repetition is written by one of three marks or by bounds between braces. A brace that no bounds
follow stands for itself.

## Main definitions

* `RunnerAtlas.Pattern.Item` — a piece of a sequence that may be repeated.
* `RunnerAtlas.Pattern.readBounds` — the bounds that a mark stands for.
* `RunnerAtlas.Pattern.repeatLast` — a sequence with its last piece repeated.
-/

set_option autoImplicit false

namespace RunnerAtlas.Pattern

/-- A piece of a sequence. A group that only holds its parts together counts as one piece, but its
parts become parts of the sequence. -/
structure Item where
  /-- The trees of the piece. -/
  nodes : List Node
  /-- Whether the piece is a group that only holds its parts together. -/
  isGroup : Bool

/-- A piece of one tree. -/
def Item.single (n : Node) : Item := ⟨[n], false⟩

/-- The bounds of a repetition are below this number. -/
def maxRepeat : Nat := 0xffffffff

/-- A bound in digits; no digits are no bound. -/
def boundOf (cs : List Char) : Reading (Option Nat) :=
  if cs.isEmpty then pure none
  else match Decimal.readInt 10 (String.ofList cs) with
    | .ok n => if maxRepeat ≤ n.toNat then throw .repetitionTooLarge else pure (some n.toNat)
    | .error cause => throw (.number cause)

/-- The bounds between braces, the opening one having been read, if there are any. -/
def readBraces : Reading (Option (Nat × Option Nat)) := do
  let before ← get
  if before.rest.head? = some (.plain '\x7d') then pure none
  else
    let low ← takeAll digits
    let high ← if ← accept ',' then takeAll digits else pure low
    if ← accept '\x7d' then
      let least := (← boundOf low).getD 0
      let most ← boundOf high
      if most.any fun most => decide (most < least) then failAt before.position .boundsReversed
      else pure (some (least, most))
    else
      set before
      pure none

/-- The bounds that a mark stands for; none if it is a brace that stands for itself. -/
def readBounds (mark : Char) : Reading (Option (Nat × Option Nat)) :=
  match mark with
  | '?' => pure (some (0, some 1))
  | '*' => pure (some (0, none))
  | '+' => pure (some (1, none))
  | _ => readBraces

/-- How a repetition uses its freedom, by the mark that may follow it. -/
def readGreed : Reading Greed := do
  if ← accept '?' then pure .idle
  else if ← accept '+' then pure .possessive
  else pure .greedy

/-- The last piece of a sequence, latest first, repeated. The mark stands at the given position.
Positions cannot be repeated, and a repetition not twice. -/
def repeatLast (position : Nat) (bounds : Nat × Option Nat) (items : List Item) :
    Reading (List Item) :=
  match items with
  | [] => failAt position .nothingToRepeat
  | item :: rest =>
    match item.isGroup, item.nodes with
    | false, [.anchor _] => failAt position .nothingToRepeat
    | false, [.loop _ _ _ _] => failAt position .multipleRepeat
    | _, nodes => do
      let greed ← readGreed
      pure (.single (.loop greed bounds.1 bounds.2 (.ofList nodes)) :: rest)

end RunnerAtlas.Pattern
