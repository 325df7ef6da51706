import RunnerAtlas.Document.Quoted

/-!
# Block scalars

A block scalar is a text of indented lines. Its header says whether lines are folded to one, what
becomes of the ends of lines after the last one, and how far it is indented if its first line does
not show that.

## Main definitions

* `RunnerAtlas.Document.Chomping` — what becomes of the last ends of lines.
* `RunnerAtlas.Document.blockScalar` — a block scalar, its mark being next.
-/

set_option autoImplicit false

namespace RunnerAtlas.Document

open RunnerAtlas.Text

/-- What becomes of the ends of lines after the last line. -/
inductive Chomping where
  /-- One stays. -/
  | clip
  /-- None stays. -/
  | strip
  /-- All stay. -/
  | keep
  deriving DecidableEq

/-- The mark of chomping, if it is next. -/
def takeChomping : Scan (Option Chomping) := do
  match ← look with
  | some '+' =>
    skip 1
    pure (some .keep)
  | some '-' =>
    skip 1
    pure (some .strip)
  | _ => pure none

/-- The digit of an indentation, if one is next. It is not zero. -/
def takeIndentation : Scan (Option Nat) := do
  match ← look with
  | some c =>
    match Digit.plainValue? 10 c with
    | some 0 => refuse
    | some n =>
      skip 1
      pure (some n)
    | none => pure none
  | none => pure none

/-- The header of a block scalar: the two marks in any order. -/
def blockHeader : Scan (Chomping × Option Nat) := do
  let (chomping, increment) ← do
    match ← takeChomping with
    | some chomping => pure (chomping, ← takeIndentation)
    | none =>
      match ← takeIndentation with
      | some n => pure ((← takeChomping).getD .clip, some n)
      | none => pure (.clip, none)
  if endsItem (← look) then pure (chomping, increment) else refuse

/-- Blank lines before the first line of a block scalar, as ends of lines, with the largest column
that their spaces reach. -/
def leadingBlanks : Nat → Nat → Scan (List Char × Nat)
  | 0, widest => pure ([], widest)
  | fuel + 1, widest => do
    if (← look) = some ' ' then
      skip 1
      leadingBlanks fuel (max widest (← column))
    else match ← takeBreak with
      | some c =>
        let (others, widest) ← leadingBlanks fuel widest
        pure (c :: others, widest)
      | none => pure ([], widest)

/-- Skips spaces up to a column. -/
def skipIndent (indent : Nat) : Scan Unit := do
  let f ← get
  skip ((f.rest.takeWhile (· == ' ')).take (indent - f.column)).length

/-- Blank lines of a block scalar, as ends of lines, and the indentation of the next line. -/
def blockBreaks (indent : Nat) : Nat → Scan (List Char)
  | 0 => pure []
  | fuel + 1 => do
    skipIndent indent
    match ← takeBreak with
    | some c => return c :: (← blockBreaks indent fuel)
    | none => pure []

/-- Whether a character begins a line that is not folded. -/
def isMoreIndented (c? : Option Char) : Bool := c?.any fun c => c == ' ' || c == '\t'

/-- The lines of a block scalar after blank lines that were taken, with the end of the last one
and the blank lines after it. -/
def blockLines (isFolded : Bool) (indent : Nat) :
    Nat → List Char → Option Char → Scan (List Char × Option Char × List Char)
  | 0, blank, last => pure ([], last, blank)
  | fuel + 1, blank, last => do
    if (← column) ≠ indent ∨ (← look) = none then pure ([], last, blank)
    else
      let isIndented := isMoreIndented (← look)
      let line ← takeWhile fun c => !isBreak c
      let ending ← takeBreak
      let breaks ← blockBreaks indent (← remaining)
      let next ← look
      if (← column) = indent ∧ next ≠ none then
        let joint :=
          if isFolded && ending == some '\n' && !isIndented && !isMoreIndented next then
            if breaks.isEmpty then [' '] else []
          else ending.toList
        let (others, last, tail) ← blockLines isFolded indent fuel breaks ending
        pure (blank ++ line ++ joint ++ others, last, tail)
      else pure (blank ++ line, ending, breaks)

/-- What is left of the end of the last line and of the blank lines after it. -/
def Chomping.tail (chomping : Chomping) (last : Option Char) (blank : List Char) : List Char :=
  match chomping with
  | clip => last.toList
  | strip => []
  | keep => last.toList ++ blank

/-- A block scalar, its mark being next. It is indented more than what it stands in, whose
indentation is given. -/
def blockScalar (isFolded : Bool) (outer : Int) : Scan String := do
  skip 1
  let (chomping, increment) ← blockHeader
  skipLineEnd
  let least := max 1 (outer + 1).toNat
  let (blank, indent) ← do
    match increment with
    | none =>
      let (blank, widest) ← leadingBlanks (← remaining) 0
      pure (blank, max least widest)
    | some n =>
      let indent := least + n - 1
      pure (← blockBreaks indent (← remaining), indent)
  let (chars, last, tail) ← blockLines isFolded indent (← remaining) blank none
  return String.ofList (chars ++ chomping.tail last tail)

end RunnerAtlas.Document
