import RunnerAtlas.Pattern.Branches
import RunnerAtlas.Pattern.Group
import RunnerAtlas.Pattern.Repetition

/-!
# Patterns

The text of a pattern is read into a tree with the flags of the whole. Some faults show only when
all of the text is known. Groups may be nested to any depth: that a reader whose stack holds a
thousand calls stops at about five hundred of them is not modelled.

## Main definitions

* `RunnerAtlas.Pattern.readSequence`, `RunnerAtlas.Pattern.readBranches` — sequences and
  alternations.
* `RunnerAtlas.Pattern.Compiled` — a pattern.
* `RunnerAtlas.Pattern.compile` — the pattern of a text.
-/

set_option autoImplicit false

namespace RunnerAtlas.Pattern

/-- The blank characters that a verbose pattern skips. -/
def skippedBlanks : List Char := [' ', '\t', '\n', '\r', '\x0b', '\x0c']

/-- Skips a comment of a verbose pattern, up to the end of its line. -/
def skipLine : Nat → Reading Unit
  | 0 => pure ()
  | fuel + 1 => do
    match ← next with
    | none => pure ()
    | some l => if l = .plain '\n' then pure () else skipLine fuel

/-- Takes the closing parenthesis of a group that began at the given position. -/
def closeGroup (start : Nat) : Reading Unit := do
  if ← accept ')' then pure () else failAt start .unterminatedGroup

/-- Reads inside a look-behind: groups that begin from here on are out of its reach. -/
def insideLookbehind {α : Type} (reading : Reading α) : Reading α := do
  let outer := (← get).lookbehind
  modify fun r => { r with lookbehind := some (outer.getD (r.widths.length + 1)) }
  let a ← reading
  modify fun r => { r with lookbehind := outer }
  pure a

/-- The trees of a sequence of pieces, given latest first. -/
def finish (items : List Item) : List Node := items.reverse.flatMap Item.nodes

mutual

/-- An alternation, up to its end. -/
def readBranches : Nat → Bool → Bool → Reading (List Node)
  | 0, _, _ => failBack 0 .unexpectedEnd
  | fuel + 1, verbose, isTop => do
    let first ← readSequence fuel verbose isTop []
    let others ← readMoreBranches fuel verbose isTop
    pure (joinBranches (first :: others))

/-- The further branches of an alternation. At the top the flags of the whole pattern say from the
second branch on whether it is verbose. -/
def readMoreBranches : Nat → Bool → Bool → Reading (List (List Node))
  | 0, _, _ => failBack 0 .unexpectedEnd
  | fuel + 1, verbose, isTop => do
    if ← accept '|' then
      let r ← get
      let verbose := if isTop then r.flags.verbose else verbose
      let branch ← readSequence fuel verbose false []
      let others ← readMoreBranches fuel verbose isTop
      pure (branch :: others)
    else pure []

/-- A sequence, up to its end, after the pieces that have been read. Only the first sequence of
the pattern may begin with flags for the whole. -/
def readSequence : Nat → Bool → Bool → List Item → Reading (List Node)
  | 0, _, _, _ => failBack 0 .unexpectedEnd
  | fuel + 1, verbose, isFirst, items => do
    match ← peek with
    | none => pure (finish items)
    | some l =>
      if l.isIn ['|', ')'] then pure (finish items)
      else
        let _ ← next
        let position := (← get).position - 1
        match l with
        | .dangling => failAt position .danglingBackslash
        | .escape letter =>
          let n ← readEscape letter
          readSequence fuel verbose isFirst (.single n :: items)
        | .plain c =>
          if verbose && skippedBlanks.contains c then readSequence fuel verbose isFirst items
          else if verbose && c == '#' then
            skipLine ((← get).rest.length + 1)
            readSequence fuel verbose isFirst items
          else match c with
            | '[' =>
              let n ← readSet
              readSequence fuel verbose isFirst (.single n :: items)
            | '.' => readSequence fuel verbose isFirst (.single .any :: items)
            | '^' => readSequence fuel verbose isFirst (.single (.anchor .lineStart) :: items)
            | '$' => readSequence fuel verbose isFirst (.single (.anchor .lineEnd) :: items)
            | '(' =>
              let head ← readHead position
              match head with
              | .comment => readSequence fuel verbose isFirst items
              | .flags on =>
                modify fun r => { r with flags := r.flags.union on }
                if isFirst && items.isEmpty then
                  readSequence fuel (← get).flags.verbose isFirst items
                else failAt position .flagsNotAtStart
              | head =>
                let item ← readGroup fuel verbose position head
                readSequence fuel verbose isFirst (item :: items)
            | c =>
              if c = '*' ∨ c = '+' ∨ c = '?' ∨ c = '\x7b' then
                match ← readBounds c with
                | some bounds =>
                  let items ← repeatLast position bounds items
                  readSequence fuel verbose isFirst items
                | none => readSequence fuel verbose isFirst (.single (.char c.toNat) :: items)
              else readSequence fuel verbose isFirst (.single (.char c.toNat) :: items)

/-- The body of a group whose head has been read, up to its closing parenthesis. -/
def readGroup : Nat → Bool → Nat → Head → Reading Item
  | 0, _, _, _ => failBack 0 .unexpectedEnd
  | fuel + 1, verbose, start, head => do
    match head with
    | .capture name =>
      let group ← beginGroup name
      let body ← readBranches fuel verbose false
      closeGroup start
      endGroup group (.ofList body)
      pure (.single (.capture group (.ofList body)))
    | .scoped on off =>
      let body ← readBranches fuel ((verbose || on.verbose) && !off.verbose) false
      closeGroup start
      if on = {} ∧ off = {} then pure ⟨body, true⟩
      else pure (.single (.scoped on off (.ofList body)))
    | .atomic =>
      let body ← readBranches fuel verbose false
      closeGroup start
      pure (.single (.atomic (.ofList body)))
    | .look ahead negated =>
      let body ←
        if ahead then readBranches fuel verbose false
        else insideLookbehind (readBranches fuel verbose false)
      closeGroup start
      pure (.single (.look ahead negated (.ofList body)))
    | .cond group =>
      let yes ← readSequence fuel verbose false []
      let no ← if ← accept '|' then readSequence fuel verbose false [] else pure []
      if ← nextIsIn ['|'] then failBack 0 .tooManyBranches
      else
        closeGroup start
        pure (.single (.cond group (.ofList yes) (.ofList no)))
    | .reference group => pure (.single (.backref group))
    | .flags _ => pure ⟨[], true⟩
    | .comment => pure ⟨[], true⟩

end

/-- The name of a repetition's operator. -/
def Greed.operator : Greed → String
  | greedy => "MAX_REPEAT"
  | idle => "MIN_REPEAT"
  | possessive => "POSSESSIVE_REPEAT"

/-- The largest width of a look-behind. -/
def maxWidth : Nat := 0xffffffff

/-- The first fault of a tree that shows only when the whole pattern is known: a repetition in a
template, or a look-behind of no fixed width. -/
def Node.fault? (template : Bool) (groups : Nat → Width) : Node → Option Fault
  | .seq first rest => first.fault? template groups <|> rest.fault? template groups
  | .alt first second => first.fault? template groups <|> second.fault? template groups
  | .loop greed _ _ body =>
    if template then some (.templateRepeat greed.operator) else body.fault? template groups
  | .capture _ body => body.fault? template groups
  | .scoped _ _ body => body.fault? template groups
  | .atomic body => body.fault? template groups
  | .look ahead _ body =>
    let width := body.width groups
    if !ahead && decide (maxWidth < width.least) then some .wideLookbehind
    else if !ahead && width.most != some width.least then some .variableLookbehind
    else body.fault? template groups
  | .cond _ yes no => yes.fault? template groups <|> no.fault? template groups
  | _ => none

/-- A pattern: its tree, the flags of the whole and the widths of its groups. -/
structure Compiled where
  /-- The tree. -/
  node : Node
  /-- The flags of the whole. -/
  flags : Flags
  /-- The widths of the groups. -/
  widths : List (Option Width)

/-- The whole text of a pattern. -/
def readPattern : Reading Compiled := do
  checkNext
  let nodes ← readBranches (3 * (← get).rest.length + 4) (← get).flags.verbose true
  let r ← get
  if r.flags.ascii && r.flags.unicode then throw .incompatibleFlags
  else if !r.rest.isEmpty then failBack 0 .unbalanced
  else match r.conditions.find? fun condition => decide (r.widths.length < condition.1) with
    | some condition => failAt condition.2 (.invalidReference condition.1)
    | none =>
      let node := Node.ofList nodes
      match node.fault? r.flags.template r.width with
      | some fault => throw (.malformed fault none)
      | none => pure ⟨node, r.flags, r.widths⟩

/-- The pattern of a text under the given flags. -/
def compile (text : List Char) (flags : Flags) : Except PatternError Compiled :=
  (readPattern.run (Reader.start text flags)).map Prod.fst

end RunnerAtlas.Pattern
