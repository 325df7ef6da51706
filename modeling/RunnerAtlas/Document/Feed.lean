import RunnerAtlas.Document.Fault

/-!
# Characters of a document

The characters of a document are taken one by one. Where the next one stands, by its number in the
text and by line and column, decides how it is understood.

## Main definitions

* `RunnerAtlas.Document.isBreak`, `RunnerAtlas.Document.endsWord` — classes of characters.
* `RunnerAtlas.Document.Feed` — the characters to come and the place of the first one.
* `RunnerAtlas.Document.Scan` — scanning, with possible failure.
* `RunnerAtlas.Document.takeWhile`, `RunnerAtlas.Document.takeBreak` — runs of characters and ends
  of lines.
-/

set_option autoImplicit false

namespace RunnerAtlas.Document

/-- The characters that end a line. -/
def isBreak (c : Char) : Bool := c == '\n' || c == '\x85' || c == '\u2028' || c == '\u2029'

/-- Whether there is no character, or one that ends a line. -/
def endsLine (c? : Option Char) : Bool := c?.all isBreak

/-- Whether there is no character, or a space, or one that ends a line. -/
def endsItem (c? : Option Char) : Bool := c?.all fun c => c == ' ' || isBreak c

/-- Whether there is no character, or a space or tab, or one that ends a line. -/
def endsWord (c? : Option Char) : Bool := c?.all fun c => c == ' ' || c == '\t' || isBreak c

/-- Whether a character may stand in the text of a document. -/
def isAllowed (c : Char) : Bool :=
  let code := c.toNat
  code == 0x9 || code == 0xa || code == 0xd || code == 0x85 ||
    (decide (0x20 ≤ code) && decide (code ≤ 0x7e)) ||
    (decide (0xa0 ≤ code) && decide (code ≤ 0xd7ff)) ||
    (decide (0xe000 ≤ code) && decide (code ≤ 0xfffd)) || decide (0x10000 ≤ code)

/-- The characters to come and the place of the first one. -/
structure Feed where
  /-- The characters. -/
  rest : List Char
  /-- The number of characters before. -/
  index : Nat
  /-- The line, from zero. -/
  line : Nat
  /-- The column, from zero. -/
  column : Nat

namespace Feed

/-- The start of a text. -/
def ofText (cs : List Char) : Feed := ⟨cs, 0, 0, 0⟩

/-- The feed after its first character. A byte order mark takes no column. -/
def advance (f : Feed) : Feed :=
  match f.rest with
  | [] => f
  | c :: rest =>
    if isBreak c then ⟨rest, f.index + 1, f.line + 1, 0⟩
    else ⟨rest, f.index + 1, f.line, if c = '\ufeff' then f.column else f.column + 1⟩

/-- The feed after a number of characters. -/
def advanceBy (f : Feed) : Nat → Feed
  | 0 => f
  | n + 1 => f.advance.advanceBy n

/-- The character some places ahead. -/
def at? (f : Feed) (n : Nat) : Option Char := f.rest[n]?

end Feed

/-- Scanning, with possible failure. -/
abbrev Scan := StateT Feed (Except Fault)

/-- Refuses the document. -/
def refuse {α : Type} : Scan α := throw .malformed

/-- The character some places ahead, which stays there. -/
def lookAt (n : Nat) : Scan (Option Char) := do
  return (← get).at? n

/-- The next character, which stays there. -/
def look : Scan (Option Char) := lookAt 0

/-- Skips a number of characters. -/
def skip (n : Nat) : Scan Unit := modify fun f => f.advanceBy n

/-- The column of the next character. -/
def column : Scan Nat := do
  return (← get).column

/-- Takes the characters up to the first one that fails a test. -/
def takeWhile (test : Char → Bool) : Scan (List Char) := do
  let taken := (← get).rest.takeWhile test
  skip taken.length
  pure taken

/-- Skips spaces. -/
def skipSpaces : Scan Unit := do
  let _ ← takeWhile (· == ' ')

/-- Takes the end of a line, if it is next. All ends count as a line feed but the separators of
lines and paragraphs, which stay. -/
def takeBreak : Scan (Option Char) := do
  match ← look with
  | some c =>
    if isBreak c then
      skip 1
      pure (some (if c = '\x85' then '\n' else c))
    else pure none
  | none => pure none

/-- Skips a comment, if one is next, up to the end of its line. -/
def skipComment : Scan Unit := do
  if (← look) = some '#' then
    let _ ← takeWhile fun c => !isBreak c

/-- Skips what may follow on a line that holds nothing more: spaces, a comment and its end. -/
def skipLineEnd : Scan Unit := do
  skipSpaces
  skipComment
  if endsLine (← look) then
    let _ ← takeBreak
  else refuse

/-- Whether the mark of a document's start or end is next. -/
def atMark : Scan Bool := do
  let f ← get
  let mark := f.rest.take 3
  return (mark == ['-', '-', '-'] || mark == ['.', '.', '.']) && endsWord (f.at? 3)

end RunnerAtlas.Document
