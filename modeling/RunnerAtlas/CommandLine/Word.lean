import RunnerAtlas.CommandLine.Usage
import RunnerAtlas.Text.Digit

/-!
# Words of a command line

A word that begins with a hyphen is an option, unless it looks like a negative number or holds a
space. Options may be abbreviated, and a text may be attached to one by an equals sign.

## Main definitions

* `RunnerAtlas.CommandLine.Word` — what a word is read as.
* `RunnerAtlas.CommandLine.Word.read` — the reading of one word.
* `RunnerAtlas.CommandLine.Word.readAll` — the readings of all words of a command line.
-/

set_option autoImplicit false

namespace RunnerAtlas.CommandLine

open RunnerAtlas.Text

/-- What a word is read as. -/
inductive Word where
  /-- A text. -/
  | text (text : String)
  /-- The mark after which no word is an option. -/
  | mark
  /-- An option, with what is attached to it: directly, or by an equals sign. -/
  | option (flag : Flag) (isDirect : Bool) (attached : Option String)
  /-- An option that does not exist. -/
  | unknown (text : String)
  deriving DecidableEq

namespace Word

/-- The mark after which no word is an option, as it is written. -/
def markText : String := "--"

/-- A word up to its first equals sign, and what comes after. -/
def splitAtEquals (cs : List Char) : List Char × Option (List Char) :=
  match cs.dropWhile (· != '=') with
  | [] => (cs, none)
  | _ :: rest => (cs.takeWhile (· != '='), some rest)

/-- Whether characters after a hyphen make a negative number: digits, or a fraction. An end of line
after it makes no difference. -/
def isNumber (cs : List Char) : Bool :=
  let cs := if cs.getLast? = some '\n' then cs.dropLast else cs
  let isDigit (c : Char) : Bool := Digit.isDigit c.toNat
  let rest := cs.dropWhile isDigit
  match rest with
  | [] => !cs.isEmpty
  | c :: fraction => c == '.' && !fraction.isEmpty && fraction.all isDigit

/-- The spellings of options, each with its option. -/
def spelled (flags : List Flag) : List (String × Flag) :=
  flags.flatMap fun flag => flag.spellings.map fun spelling => (spelling, flag)

/-- The options that a word which spells none of them in full may stand for: those that it
abbreviates, or a short one with characters attached. -/
def candidates (flags : List Flag) (cs : List Char) : List (String × Word) :=
  if cs.take 2 = ['-', '-'] then
    let (start, attached) := splitAtEquals cs
    (spelled flags).filterMap fun (spelling, flag) =>
      if start.isPrefixOf spelling.toList then
        some (spelling, .option flag false (attached.map String.ofList))
      else none
  else
    (spelled flags).filterMap fun (spelling, flag) =>
      if spelling.toList = cs.take 2 then
        some (spelling, .option flag true (some (String.ofList (cs.drop 2))))
      else if cs.isPrefixOf spelling.toList then
        some (spelling, .option flag false none)
      else none

/-- The reading of a word that spells no option in full. -/
def readPartly (flags : List Flag) (word : String) : Except UsageFault Word :=
  let cs := word.toList
  match candidates flags cs with
  | [(_, found)] => .ok found
  | first :: second :: rest => .error (.ambiguous word ((first :: second :: rest).map Prod.fst))
  | [] => .ok (if isNumber (cs.drop 1) || cs.contains ' ' then .text word else .unknown word)

/-- The reading of a word among options. -/
def read (flags : List Flag) (word : String) : Except UsageFault Word :=
  let cs := word.toList
  if cs.head? ≠ some '-' then .ok (.text word)
  else match (spelled flags).lookup word with
    | some flag => .ok (.option flag false none)
    | none =>
      if cs.length = 1 then .ok (.text word)
      else match splitAtEquals cs with
        | (start, some attached) =>
          match (spelled flags).lookup (String.ofList start) with
          | some flag => .ok (.option flag false (some (String.ofList attached)))
          | none => readPartly flags word
        | _ => readPartly flags word

/-- The readings of all words among options. After the mark every word is a text. -/
def readAll (flags : List Flag) : List String → Except UsageFault (List Word)
  | [] => .ok []
  | word :: rest =>
    if word = markText then .ok (.mark :: rest.map .text)
    else do
      let first ← read flags word
      let others ← readAll flags rest
      pure (first :: others)

end Word

end RunnerAtlas.CommandLine
