import RunnerAtlas.Pattern.Escape

/-!
# Character sets in brackets

A set lists characters, ranges and classes between brackets. A bracket that ends it does not stand
first in it, and a hyphen stands for itself where it makes no range.

## Main definitions

* `RunnerAtlas.Pattern.readSet` — a set after its opening bracket.
-/

set_option autoImplicit false

namespace RunnerAtlas.Pattern

/-- One end of a range or a member of a set, with the piece of text that it starts with. -/
def readSetItem (l : Lexeme) : Reading SetItem :=
  match l with
  | .escape letter => readSetEscape letter
  | .plain c => pure (.char c.toNat)
  | .dangling => pure (.char '\\'.toNat)

/-- The range between two ends, which must be characters in this order. -/
def rangeOf (low high : Lexeme) (first last : SetItem) : Reading SetItem :=
  let bad : Reading SetItem :=
    failBack (low.length + 1 + high.length) (.badRange low.text high.text)
  match first, last with
  | .char a, .char b => if b < a then bad else pure (.range a b)
  | _, _ => bad

/-- The members of a set up to its end. The set began at the given position. -/
def readMembers (start : Nat) : Nat → List SetItem → Reading (List SetItem)
  | 0, _ => failAt start .unterminatedSet
  | fuel + 1, found => do
    match ← next with
    | none => failAt start .unterminatedSet
    | some low =>
      if low = .plain ']' ∧ ¬ found.isEmpty then pure found
      else
        let first ← readSetItem low
        if ← accept '-' then
          match ← next with
          | none => failAt start .unterminatedSet
          | some high =>
            if high = .plain ']' then pure (found ++ [first, .char '-'.toNat])
            else
              let last ← readSetItem high
              let range ← rangeOf low high first last
              readMembers start fuel (found ++ [range])
        else readMembers start fuel (found ++ [first])

/-- The members without repetitions, in the order in which they first came. -/
def distinct (items : List SetItem) : List SetItem :=
  (items.foldl (fun found item => if found.contains item then found else item :: found)
    []).reverse

/-- A set of one character is that character. -/
def setNode (negated : Bool) (items : List SetItem) : Node :=
  match distinct items with
  | [.char code] => if negated then .notChar code else .char code
  | items => .set negated items

/-- A set after its opening bracket. -/
def readSet : Reading Node := do
  let start := (← get).position - 1
  let negated ← accept '^'
  let items ← readMembers start ((← get).rest.length + 1) []
  pure (setNode negated items)

end RunnerAtlas.Pattern
