import RunnerAtlas.Pattern.Reader
import RunnerAtlas.Text.CharacterName
import RunnerAtlas.Text.Letter

/-!
# Escapes

A backslash gives the next character another meaning: a class, a position, a code point by number
or name, a reference to a group, or the character itself where it is no letter and no digit.

## Main definitions

* `RunnerAtlas.Pattern.readEscape` — an escape outside a set.
* `RunnerAtlas.Pattern.readSetEscape` — an escape inside a set.
-/

set_option autoImplicit false

namespace RunnerAtlas.Pattern

open RunnerAtlas.Text

/-- The decimal digits. -/
def digits : List Char := "0123456789".toList

/-- The octal digits. -/
def octalDigits : List Char := "01234567".toList

/-- The hexadecimal digits. -/
def hexDigits : List Char := "0123456789abcdefABCDEF".toList

/-- The code point of an escape that stands for one control character. -/
def controlEscape? : Char → Option Nat
  | 'a' => some 0x7
  | 'b' => some 0x8
  | 'f' => some 0xc
  | 'n' => some 0xa
  | 'r' => some 0xd
  | 't' => some 0x9
  | 'v' => some 0xb
  | '\\' => some 0x5c
  | _ => none

/-- The class of an escape. -/
def categoryEscape? : Char → Option SetItem
  | 'd' => some (.category .digit false)
  | 'D' => some (.category .digit true)
  | 's' => some (.category .blank false)
  | 'S' => some (.category .blank true)
  | 'w' => some (.category .word false)
  | 'W' => some (.category .word true)
  | _ => none

/-- The position that an escape tests. -/
def anchorEscape? : Char → Option Anchor
  | 'A' => some .textStart
  | 'b' => some .boundary
  | 'B' => some .noBoundary
  | 'Z' => some .textEnd
  | _ => none

/-- The number that digits spell in a base. -/
def spelled (base : Nat) (cs : List Char) : Nat :=
  Digit.ofDigits base (cs.filterMap (Digit.plainValue? base))

/-- An escape as text: the backslash, its letter and what belongs to it. -/
def escapeText (letter : Char) (tail : List Char) : String := String.ofList ('\\' :: letter :: tail)

/-- A fault of an escape that has been read, placed at its backslash. -/
def failEscape {α : Type} (letter : Char) (tail : List Char) (fault : String → Fault) :
    Reading α :=
  failBack (tail.length + 2) (fault (escapeText letter tail))

/-- A code point by a fixed number of hexadecimal digits. -/
def readCode (letter : Char) (count : Nat) : Reading Nat := do
  let tail ← takeUpTo hexDigits count
  if tail.length ≠ count then failEscape letter tail .incompleteEscape
  else
    let code := spelled 16 tail
    if 0x7fffffff < code then throw .codePointTooLarge
    else if 0x10ffff < code then failEscape letter tail .badEscape
    else pure code

/-- A code point by the name of its character between braces. -/
def readNamed : Reading Nat := do
  if ← accept '\x7b' then
    let name ← readName "character name" '\x7d'
    match CharacterName.find? name with
    | some code => pure code
    | none => failBack (name.length + 4) (.undefinedCharacter name)
  else failBack 0 .missingBrace

/-- The code point of an escape by number or name, if its letter announces one. -/
def readCode? (letter : Char) : Reading (Option Nat) :=
  match letter with
  | 'x' => some <$> readCode letter 2
  | 'u' => some <$> readCode letter 4
  | 'U' => some <$> readCode letter 8
  | 'N' => some <$> readNamed
  | _ => pure none

/-- The code point of octal digits that have been read. -/
def octalCode (letter : Char) (tail : List Char) : Reading Nat :=
  let code := spelled 8 (letter :: tail)
  if 0o377 < code then failEscape letter tail .octalTooLarge else pure code

/-- The character of an escape that has no other meaning. Letters and digits have no such one. -/
def ownMeaning (letter : Char) : Reading Nat :=
  if Letter.isPlainLetter letter.toNat || digits.contains letter then
    failEscape letter [] .badEscape
  else pure letter.toNat

/-- An escape inside a set. -/
def readSetEscape (letter : Char) : Reading SetItem := do
  match controlEscape? letter, categoryEscape? letter with
  | some code, _ => pure (.char code)
  | none, some item => pure item
  | none, none =>
    match ← readCode? letter with
    | some code => pure (.char code)
    | none =>
      if octalDigits.contains letter then
        let tail ← takeUpTo octalDigits 2
        .char <$> octalCode letter tail
      else .char <$> ownMeaning letter

/-- A reference to a group by its number. -/
def backref (letter : Char) (tail : List Char) : Reading Node := do
  let group := spelled 10 (letter :: tail)
  let r ← get
  if group ≤ r.widths.length then
    if r.hasEnded group then
      checkLookbehind group
      pure (.backref group)
    else failBack (tail.length + 2) .openGroup
  else failBack (tail.length + 1) (.invalidReference group)

/-- An escape by number: a code point if it starts with zero or consists of three octal digits, a
reference to a group otherwise. -/
def readNumbered (letter : Char) : Reading Node := do
  if letter = '0' then
    let tail ← takeUpTo octalDigits 2
    pure (.char (spelled 8 (letter :: tail)))
  else
    let second ← takeUpTo digits 1
    let isOctal := octalDigits.contains letter && second.any octalDigits.contains
    if isOctal && (← nextIsIn octalDigits) then
      let third ← takeUpTo octalDigits 1
      .char <$> octalCode letter (second ++ third)
    else backref letter second

/-- An escape outside a set. -/
def readEscape (letter : Char) : Reading Node := do
  match anchorEscape? letter, categoryEscape? letter, controlEscape? letter with
  | some test, _, _ => pure (.anchor test)
  | none, some item, _ => pure (.set false [item])
  | none, none, some code => pure (.char code)
  | none, none, none =>
    match ← readCode? letter with
    | some code => pure (.char code)
    | none =>
      if digits.contains letter then readNumbered letter else .char <$> ownMeaning letter

end RunnerAtlas.Pattern
