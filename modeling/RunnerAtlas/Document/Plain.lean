import RunnerAtlas.Document.Quoted

/-!
# Plain scalars

A plain scalar has no quotes. It ends before a colon that a blank follows, before a comment, and
in a flow collection before its marks; over several lines it is folded as a quoted one is.

## Main definitions

* `RunnerAtlas.Document.startsPlain` — whether a plain scalar may start here.
* `RunnerAtlas.Document.plainScalar` — a plain scalar.
-/

set_option autoImplicit false

namespace RunnerAtlas.Document

/-- The characters that a plain scalar cannot start with. -/
def indicators : List Char := "-?:,[]#&*!|>'\"%@".toList ++ ['\x7b', '\x7d', '\x60']

/-- Whether a plain scalar may start with a character that is followed by another one. The marks
of entries, keys and values may start one if no blank follows, the latter two not in a flow
collection. -/
def startsPlain (inFlow : Bool) (c : Char) (next : Option Char) : Bool :=
  !(endsWord (some c) || indicators.contains c) ||
    (!endsWord next && (c == '-' || (!inFlow && (c == '?' || c == ':'))))

/-- The characters that end a plain scalar in a flow collection. -/
def flowMarks : List Char := [',', '?', '[', ']', '\x7b', '\x7d']

/-- The characters after a colon that let it end a plain scalar in a flow collection. -/
def flowEnds : List Char := [',', '[', ']', '\x7b', '\x7d']

/-- Whether a plain scalar ends before a character that is followed by another one. -/
def endsPlain (inFlow : Bool) (c : Char) (next : Option Char) : Bool :=
  endsWord (some c) ||
    (c == ':' && (endsWord next || (inFlow && next.any flowEnds.contains))) ||
    (inFlow && flowMarks.contains c)

/-- The characters of a plain scalar up to a blank or its end. -/
def plainWord (inFlow : Bool) : List Char → List Char
  | [] => []
  | c :: rest => if endsPlain inFlow c rest.head? then [] else c :: plainWord inFlow rest

/-- Blank lines inside a plain scalar, as ends of lines; none if the mark of a document's start or
end follows one of them. -/
def plainBreaks : Nat → Scan (Option (List Char))
  | 0 => pure (some [])
  | fuel + 1 => do
    skipSpaces
    match ← takeBreak with
    | some c =>
      if ← atMark then pure none
      else return (← plainBreaks fuel).map (c :: ·)
    | none => pure (some [])

/-- The blanks after a word of a plain scalar as it has them if it goes on, and whether an end of
line was among them. No characters mean that it does not go on. -/
def plainBlanks : Scan (List Char × Bool) := do
  let blanks ← takeWhile (· == ' ')
  match ← takeBreak with
  | none => pure (blanks, false)
  | some c =>
    if ← atMark then pure ([], true)
    else match ← plainBreaks (← remaining) with
      | none => pure ([], true)
      | some breaks => pure (folded c breaks, true)

/-- The words of a plain scalar after blanks that were taken, and whether the scalar is followed
by a new line. -/
def plainWords (inFlow : Bool) (indent : Int) :
    Nat → List Char → Bool → Scan (List Char × Bool)
  | 0, _, newLine => pure ([], newLine)
  | fuel + 1, blanks, newLine => do
    let rest := (← get).rest
    let word := if rest.head? = some '#' then [] else plainWord inFlow rest
    if word.isEmpty then pure ([], newLine)
    else
      skip word.length
      let (next, newLine) ← plainBlanks
      if next.isEmpty ∨ (← look) = some '#' ∨ (!inFlow ∧ (← column) < indent) then
        pure (blanks ++ word, newLine)
      else
        let (others, newLine) ← plainWords inFlow indent fuel next newLine
        pure (blanks ++ word ++ others, newLine)

/-- A plain scalar inside what has the given indentation, and whether a new line follows it. -/
def plainScalar (inFlow : Bool) (outer : Int) : Scan (String × Bool) := do
  let (chars, newLine) ← plainWords inFlow (outer + 1) (← remaining) [] false
  pure (String.ofList chars, newLine)

end RunnerAtlas.Document
