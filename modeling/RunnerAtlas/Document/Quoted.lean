import RunnerAtlas.Document.Feed
import RunnerAtlas.Text.Digit

/-!
# Quoted scalars

A quoted scalar may go over several lines: a single end of line becomes a space, and blank lines
become ends of lines. Between single quotes a quote is written twice; between double quotes a
backslash begins an escape.

## Main definitions

* `RunnerAtlas.Document.quotedScalar` — a quoted scalar, its first quote being next.
-/

set_option autoImplicit false

namespace RunnerAtlas.Document

open RunnerAtlas.Text

/-- The character that an escape of one letter stands for. -/
def letterEscape? : Char → Option Char
  | '0' => some '\x00'
  | 'a' => some '\x07'
  | 'b' => some '\x08'
  | 't' => some '\t'
  | '\t' => some '\t'
  | 'n' => some '\n'
  | 'v' => some '\x0b'
  | 'f' => some '\x0c'
  | 'r' => some '\r'
  | 'e' => some '\x1b'
  | ' ' => some ' '
  | '"' => some '"'
  | '\\' => some '\\'
  | '/' => some '/'
  | 'N' => some '\x85'
  | '_' => some '\xa0'
  | 'L' => some '\u2028'
  | 'P' => some '\u2029'
  | _ => none

/-- The number of hexadecimal digits of an escape by number. -/
def codeEscape? : Char → Option Nat
  | 'x' => some 2
  | 'u' => some 4
  | 'U' => some 8
  | _ => none

/-- The character of an escape by number, its digits being next. A surrogate is refused as if the
form were wrong: a document may name it, but no value made of characters holds it. -/
def escapedCode (count : Nat) : Scan Char := do
  let digits := (← get).rest.take count
  if digits.length < count ∨ ¬ digits.all fun c => (Digit.plainValue? 16 c).isSome then refuse
  else
    let code := Digit.ofDigits 16 (digits.filterMap (Digit.plainValue? 16))
    if 0x7fffffff < code then throw (.scalar .codePointTooLarge)
    else if 0x10ffff < code then throw (.scalar .noCodePoint)
    else if 0xd800 ≤ code ∧ code < 0xe000 then refuse
    else
      skip count
      pure (Char.ofNat code)

/-- The blank lines that follow inside a quoted scalar, as ends of lines. The mark of a document's
start or end is not allowed there. -/
def quotedBreaks : Nat → Scan (List Char)
  | 0 => pure []
  | fuel + 1 => do
    if ← atMark then refuse
    else
      let _ ← takeWhile fun c => c == ' ' || c == '\t'
      match ← takeBreak with
      | some c => return c :: (← quotedBreaks fuel)
      | none => pure []

/-- The number of characters to come, which bounds every loop over them. -/
def remaining : Scan Nat := do
  return (← get).rest.length + 1

/-- What an end of line and the blank lines after it become: a space if there are none, and else
the ends of the blank lines. -/
def folded (first : Char) (blank : List Char) : List Char :=
  if first ≠ '\n' then first :: blank else if blank.isEmpty then [' '] else blank

/-- Blanks inside a quoted scalar. Those around an end of line are dropped. -/
def quotedBlanks : Scan (List Char) := do
  let blanks ← takeWhile fun c => c == ' ' || c == '\t'
  match ← look with
  | none => refuse
  | some _ =>
    match ← takeBreak with
    | some c => return folded c (← quotedBreaks (← remaining))
    | none => pure blanks

/-- An escape, its backslash having been taken. A line that ends in a backslash goes on without
a space. -/
def quotedEscape : Scan (List Char) := do
  match ← look with
  | none => refuse
  | some c =>
    match letterEscape? c, codeEscape? c with
    | some d, _ =>
      skip 1
      pure [d]
    | none, some count =>
      skip 1
      return [← escapedCode count]
    | none, none =>
      if isBreak c then
        let _ ← takeBreak
        quotedBreaks (← remaining)
      else refuse

/-- Characters inside a quoted scalar up to a blank, its end, or the end of the text. -/
def quotedChars (double : Bool) : Nat → Scan (List Char)
  | 0 => pure []
  | fuel + 1 => do
    match ← look with
    | none => pure []
    | some c =>
      if c == ' ' || c == '\t' || isBreak c then pure []
      else if c = '\'' then
        if double then
          skip 1
          return '\'' :: (← quotedChars double fuel)
        else if (← lookAt 1) = some '\'' then
          skip 2
          return '\'' :: (← quotedChars double fuel)
        else pure []
      else if c = '"' ∧ double then pure []
      else if c = '\\' ∧ double then
        skip 1
        let escaped ← quotedEscape
        return escaped ++ (← quotedChars double fuel)
      else
        skip 1
        return c :: (← quotedChars double fuel)

/-- The rest of a quoted scalar after its first characters, with the closing quote. -/
def quotedRest (double : Bool) : Nat → Scan (List Char)
  | 0 => refuse
  | fuel + 1 => do
    if (← look) = some (if double then '"' else '\'') then
      skip 1
      pure []
    else
      let blanks ← quotedBlanks
      let chars ← quotedChars double (← remaining)
      return blanks ++ chars ++ (← quotedRest double fuel)

/-- A quoted scalar, its first quote being next. -/
def quotedScalar (double : Bool) : Scan String := do
  skip 1
  let chars ← quotedChars double (← remaining)
  let others ← quotedRest double (← remaining)
  return String.ofList (chars ++ others)

end RunnerAtlas.Document
