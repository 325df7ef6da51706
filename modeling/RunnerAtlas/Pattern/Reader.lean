import RunnerAtlas.Pattern.Fault
import RunnerAtlas.Pattern.Node

/-!
# Reading a pattern from left to right

The text of a pattern is first cut into single characters and escapes of two characters. A reader
walks over these and keeps what the pattern has declared so far.

## Main definitions

* `RunnerAtlas.Pattern.Lexeme` — a character or an escape.
* `RunnerAtlas.Pattern.Reader` — the state of a reader.
* `RunnerAtlas.Pattern.Reading` — reading with a state and possible failure.
* `RunnerAtlas.Pattern.peek`, `RunnerAtlas.Pattern.next`, `RunnerAtlas.Pattern.accept` — the steps.
* `RunnerAtlas.Pattern.readName`, `RunnerAtlas.Pattern.takeUpTo` — names and runs of characters.
-/

set_option autoImplicit false

namespace RunnerAtlas.Pattern

/-- A piece of the text of a pattern. -/
inductive Lexeme where
  /-- A character that no backslash stands before. -/
  | plain (c : Char)
  /-- A backslash and a character. -/
  | escape (c : Char)
  /-- A backslash at the end of the text. -/
  | dangling
  deriving DecidableEq

namespace Lexeme

/-- The number of characters of a piece. -/
def length : Lexeme → Nat
  | plain _ => 1
  | escape _ => 2
  | dangling => 1

/-- The characters of a piece. -/
def chars : Lexeme → List Char
  | plain c => [c]
  | escape c => ['\\', c]
  | dangling => ['\\']

/-- A piece as text. -/
def text (l : Lexeme) : String := String.ofList l.chars

/-- Whether a piece is one of the characters of a list. -/
def isIn (l : Lexeme) (cs : List Char) : Bool :=
  match l with
  | plain c => cs.contains c
  | _ => false

/-- The pieces of a text. -/
def cut : List Char → List Lexeme
  | [] => []
  | ['\\'] => [dangling]
  | '\\' :: c :: rest => escape c :: cut rest
  | c :: rest => plain c :: cut rest

/-- The pieces of a text make up the text. -/
theorem flatMap_chars_cut (cs : List Char) : (cut cs).flatMap chars = cs := by
  fun_induction cut cs with
  | case1 => rfl
  | case2 => rfl
  | case3 c rest ih => simp [chars, ih]
  | case4 c rest _ _ ih => simp [chars, ih]

end Lexeme

/-- The state of a reader. -/
structure Reader where
  /-- The pieces that are still to be read. -/
  rest : List Lexeme
  /-- The number of characters already read. -/
  position : Nat
  /-- The flags of the whole pattern, as far as they are known. -/
  flags : Flags
  /-- The groups that have begun, in order; the width of one is known once it has ended. -/
  widths : List (Option Width)
  /-- The names of groups. -/
  names : List (String × Nat)
  /-- How many groups had begun, the whole pattern counted, where the outermost look-behind that
  is being read began. -/
  lookbehind : Option Nat
  /-- The groups by number on which conditional groups depend, with the positions of their first
  mention. -/
  conditions : List (Nat × Nat)

/-- Reading with a state and possible failure. -/
abbrev Reading := StateT Reader (Except PatternError)

/-- The state before the first piece. -/
def Reader.start (text : List Char) (flags : Flags) : Reader :=
  ⟨Lexeme.cut text, 0, flags, [], [], none, []⟩

/-- The width of a group that has ended. -/
def Reader.width (r : Reader) (group : Nat) : Width :=
  match r.widths[group - 1]? with
  | some (some w) => w
  | _ => .zero

/-- Whether a group has ended. -/
def Reader.hasEnded (r : Reader) (group : Nat) : Bool :=
  decide (0 < group) && match r.widths[group - 1]? with
    | some (some _) => true
    | _ => false

/-- A fault at a position. -/
def failAt {α : Type} (position : Nat) (fault : Fault) : Reading α :=
  throw (.malformed fault (some position))

/-- A fault some characters before the next piece. -/
def failBack {α : Type} (back : Nat) (fault : Fault) : Reading α := do
  failAt ((← get).position - back) fault

/-- The next piece, which stays there. -/
def peek : Reading (Option Lexeme) := do
  return (← get).rest.head?

/-- A dangling backslash is noticed as soon as it becomes the next piece. -/
def checkNext : Reading Unit := do
  let r ← get
  match r.rest with
  | [.dangling] => failAt r.position .danglingBackslash
  | _ => pure ()

/-- The next piece, which is taken. -/
def next : Reading (Option Lexeme) := do
  let r ← get
  match r.rest with
  | [] => pure none
  | l :: rest =>
    set { r with rest := rest, position := r.position + l.length }
    checkNext
    pure (some l)

/-- Takes the next piece if it is the given character. -/
def accept (c : Char) : Reading Bool := do
  if (← peek) = some (.plain c) then
    let _ ← next
    pure true
  else pure false

/-- Whether the next piece is one of the characters of a list. -/
def nextIsIn (cs : List Char) : Reading Bool := do
  return ((← peek).map fun l => l.isIn cs).getD false

/-- Takes characters of a list, at most a number of them. -/
def takeUpTo (cs : List Char) : Nat → Reading (List Char)
  | 0 => pure []
  | n + 1 => do
    match ← peek with
    | some (.plain c) =>
      if cs.contains c then
        let _ ← next
        let rest ← takeUpTo cs n
        pure (c :: rest)
      else pure []
    | _ => pure []

/-- Takes all characters of a list that follow. -/
def takeAll (cs : List Char) : Reading (List Char) := do
  takeUpTo cs (← get).rest.length

/-- Takes the pieces up to a terminator, which is taken too; what was found before is given. -/
def readUntil (what : String) (terminator : Char) : Nat → List Char → Reading String
  | 0, _ => failBack 0 (.missingName what)
  | fuel + 1, found => do
    match ← next with
    | none =>
      if found.isEmpty then failBack 0 (.missingName what)
      else failBack found.length (.unterminatedName terminator)
    | some l =>
      if l = .plain terminator then
        if found.isEmpty then failBack 1 (.missingName what)
        else pure (String.ofList found)
      else readUntil what terminator fuel (found ++ l.chars)

/-- Takes a name up to its terminator. -/
def readName (what : String) (terminator : Char) : Reading String := do
  readUntil what terminator ((← get).rest.length + 1) []

/-- A reference to a group is no reference into a look-behind that is being read. -/
def checkLookbehind (group : Nat) : Reading Unit := do
  let r ← get
  match r.lookbehind with
  | none => pure ()
  | some groups =>
    if !r.hasEnded group then failBack 0 .openGroup
    else if groups ≤ group then failBack 0 .sameLookbehind
    else pure ()

/-- Begins a group, which may have a name, and gives its number. -/
def beginGroup (name : Option String) : Reading Nat := do
  let r ← get
  let group := r.widths.length + 1
  match name with
  | none => set { r with widths := r.widths ++ [none] }
  | some name =>
    match r.names.lookup name with
    | some earlier => failBack (name.length + 1) (.redefinition name group earlier)
    | none =>
      set { r with widths := r.widths ++ [none], names := r.names ++ [(name, group)] }
  pure group

/-- Ends a group with the tree that was read. -/
def endGroup (group : Nat) (body : Node) : Reading Unit :=
  modify fun r => { r with widths := r.widths.set (group - 1) (some (body.width r.width)) }

end RunnerAtlas.Pattern
