import RunnerAtlas.Pattern.Escape
import RunnerAtlas.Text.Identifier

/-!
# Heads of groups

What stands after an opening parenthesis says what the group is for: it remembers its match, looks
ahead or behind, depends on another group, changes flags, and so on.

## Main definitions

* `RunnerAtlas.Pattern.Head` — what a group is for.
* `RunnerAtlas.Pattern.readHead` — the head of a group.
-/

set_option autoImplicit false

namespace RunnerAtlas.Pattern

open RunnerAtlas.Text

/-- What a group is for. -/
inductive Head where
  /-- It remembers its match, possibly under a name. -/
  | capture (name : Option String)
  /-- It holds its parts together and changes flags for them. -/
  | scoped (on off : Flags)
  /-- It keeps its first match. -/
  | atomic
  /-- It tests what follows or precedes. -/
  | look (ahead negated : Bool)
  /-- It chooses by another group. -/
  | cond (group : Nat)
  /-- It refers to another group. -/
  | reference (group : Nat)
  /-- It sets flags of the whole pattern. -/
  | flags (on : Flags)
  /-- It is a comment. -/
  | comment

/-- The largest number of groups. -/
def maxGroups : Nat := 0x3fffffff

/-- Whether a character stands for a flag. -/
def isFlag (c : Char) : Bool := c == 'L' || (Flags.ofLetter? c).isSome

/-- The fault of a piece that is no flag: it is an unknown flag if it is a letter. -/
def failFlag {α : Type} (l : Lexeme) (otherwise : Fault) : Reading α :=
  match l with
  | .plain c => failBack 1 (if Letter.isLetter c.toNat then .unknownFlag else otherwise)
  | l => failBack l.length otherwise

/-- Flags that are switched on, the first one having been read, and the mark that ends them. -/
def readFlagsOn : Nat → Char → Flags → Reading (Flags × Char)
  | 0, _, _ => failBack 0 .missingMark
  | fuel + 1, letter, on =>
    match Flags.ofLetter? letter with
    | none => failBack 0 .localeFlag
    | some flag => do
      let on := on.union flag
      if (flag.ascii || flag.unicode) && on.ascii && on.unicode then failBack 0 .clashingFlags
      else match ← next with
        | none => failBack 0 .missingMark
        | some (.plain c) =>
          if c = ')' ∨ c = '-' ∨ c = ':' then pure (on, c)
          else if isFlag c then readFlagsOn fuel c on
          else failFlag (.plain c) .missingMark
        | some l => failFlag l .missingMark

/-- Flags that are switched off, the first one having been read, up to the colon after them. -/
def readFlagsOff : Nat → Char → Flags → Reading Flags
  | 0, _, _ => failBack 0 .missingColon
  | fuel + 1, letter, off =>
    match Flags.ofLetter? letter with
    | none => failBack 0 .typeFlagOff
    | some flag => do
      if flag.ascii || flag.unicode then failBack 0 .typeFlagOff
      else
        let off := off.union flag
        match ← next with
        | none => failBack 0 .missingColon
        | some (.plain c) =>
          if c = ':' then pure off
          else if isFlag c then readFlagsOff fuel c off
          else failFlag (.plain c) .missingColon
        | some l => failFlag l .missingColon

/-- The flags that are switched off after a hyphen. -/
def readOff : Reading Flags := do
  match ← next with
  | none => failBack 0 .missingFlag
  | some (.plain c) =>
    if isFlag c then readFlagsOff ((← get).rest.length + 1) c {}
    else failFlag (.plain c) .missingFlag
  | some l => failFlag l .missingFlag

/-- A head that changes flags. Its first flag or hyphen has been read. -/
def readFlags (first : Char) : Reading Head := do
  let (on, mark) ←
    if first = '-' then pure (({} : Flags), '-')
    else readFlagsOn ((← get).rest.length + 1) first {}
  if mark = ')' then pure (.flags on)
  else if on.template then failBack 1 .globalFlagOn
  else
    let off ← if mark = '-' then readOff else pure {}
    if off.template then failBack 1 .globalFlagOff
    else if on.meets off then failBack 1 .flagOnAndOff
    else pure (.scoped on off)

/-- A name of a group up to its terminator, which has to be an identifier. -/
def readGroupName (terminator : Char) : Reading String := do
  let name ← readName "group name" terminator
  if Identifier.isIdentifier name.toList then pure name
  else failBack (name.length + 1) (.badGroupName name)

/-- The number of the group with a name. -/
def namedGroup (name : String) : Reading Nat := do
  match (← get).names.lookup name with
  | some group => pure group
  | none => failBack (name.length + 1) (.unknownGroupName name)

/-- A head with the letter `P`: a name of the group, or a reference by name. -/
def readNamedHead : Reading Head := do
  if ← accept '<' then
    return .capture (some (← readGroupName '>'))
  else if ← accept '=' then
    let name ← readGroupName ')'
    let group ← namedGroup name
    if (← get).hasEnded group then
      checkLookbehind group
      pure (.reference group)
    else failBack (name.length + 1) .openGroup
  else match ← next with
    | none => failBack 0 .unexpectedEnd
    | some l => failBack (l.length + 2) (.unknownExtension ("?P" ++ l.text))

/-- The number of the group that a name in digits refers to; where it was mentioned first is kept,
since the group may follow. -/
def numberedGroup (name : String) : Reading Nat := do
  let back := name.length + 1
  match Decimal.readInt 10 name with
  | .ok (.ofNat group) =>
    if group = 0 then failBack back .badGroupNumber
    else if maxGroups ≤ group then failBack back (.invalidReference group)
    else
      let r ← get
      if (r.conditions.lookup group).isNone then
        set { r with conditions := r.conditions ++ [(group, r.position - back)] }
      pure group
  | _ => failBack back (.badGroupName name)

/-- The head of a conditional group after its inner opening parenthesis. -/
def readCondition : Reading Head := do
  let name ← readName "group name" ')'
  let group ←
    if Identifier.isIdentifier name.toList then namedGroup name else numberedGroup name
  checkLookbehind group
  pure (.cond group)

/-- Skips a comment up to its closing parenthesis. The comment began at the given position. -/
def skipComment (start : Nat) : Nat → Reading Unit
  | 0 => failAt start .unterminatedComment
  | fuel + 1 => do
    match ← next with
    | none => failAt start .unterminatedComment
    | some l => if l = .plain ')' then pure () else skipComment start fuel

/-- The head of a look-behind. -/
def readLookbehind : Reading Head := do
  match ← next with
  | none => failBack 0 .unexpectedEnd
  | some (.plain '=') => pure (.look false false)
  | some (.plain '!') => pure (.look false true)
  | some l => failBack (l.length + 2) (.unknownExtension ("?<" ++ l.text))

/-- The head of a group whose parenthesis stands at the given position. -/
def readHead (start : Nat) : Reading Head := do
  if ← accept '?' then
    match ← next with
    | none => failBack 0 .unexpectedEnd
    | some (.plain 'P') => readNamedHead
    | some (.plain ':') => pure (.scoped {} {})
    | some (.plain '#') =>
      skipComment start ((← get).rest.length + 1)
      pure .comment
    | some (.plain '=') => pure (.look true false)
    | some (.plain '!') => pure (.look true true)
    | some (.plain '<') => readLookbehind
    | some (.plain '(') => readCondition
    | some (.plain '>') => pure .atomic
    | some (.plain c) =>
      if c = '-' ∨ isFlag c then readFlags c
      else failBack 2 (.unknownExtension (String.ofList ['?', c]))
    | some l => failBack (l.length + 1) (.unknownExtension ("?" ++ l.text))
  else pure (.capture none)

end RunnerAtlas.Pattern
