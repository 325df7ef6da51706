import RunnerAtlas.Text.Digit

/-!
# Tags

The tag of a node says what kind of value it stands for. A plain scalar without a tag has the one
that its text suggests.

## Main definitions

* `RunnerAtlas.Document.Tag` — the tags, with `Tag.ofText`.
* `RunnerAtlas.Document.isWhole`, `RunnerAtlas.Document.isDecimal`,
  `RunnerAtlas.Document.isTimestamp` — the forms of numbers and moments.
* `RunnerAtlas.Document.Tag.suggested` — the tag that a text suggests.
-/

set_option autoImplicit false

namespace RunnerAtlas.Document

open RunnerAtlas.Text

/-- The tags. -/
inductive Tag where
  /-- The absent value. -/
  | null
  /-- A truth value. -/
  | bool
  /-- A whole number. -/
  | int
  /-- A floating-point number. -/
  | float
  /-- Octets. -/
  | binary
  /-- A day or moment. -/
  | timestamp
  /-- A sequence of pairs. -/
  | pairs
  /-- A set. -/
  | set
  /-- A text. -/
  | str
  /-- A sequence. -/
  | seq
  /-- A mapping. -/
  | map
  /-- The key of mappings to be merged. -/
  | merge
  /-- The key of the value that a mapping stands for. -/
  | value
  /-- A tag that stands for no kind of value. -/
  | unknown
  deriving DecidableEq

namespace Tag

/-- What the known tags begin with. -/
def start : String := "tag:yaml.org,2002:"

/-- The tag of a text. Ordered mappings are sequences of pairs. -/
def ofText (text : String) : Tag :=
  match (["null", "bool", "int", "float", "binary", "timestamp", "omap", "pairs", "set", "str",
      "seq", "map", "merge", "value"].zip
    [null, bool, int, float, binary, timestamp, pairs, pairs, set, str, seq, map, merge,
      value]).find? fun entry => start ++ entry.1 == text with
  | some entry => entry.2
  | none => unknown

end Tag

/-- Whether a character is a digit or a low line. -/
def isDigitOrLine (c : Char) : Bool := Digit.isPlain c || c == '_'

/-- The text after a sign, if it has one. -/
def afterSign : List Char → List Char
  | '-' :: rest => rest
  | '+' :: rest => rest
  | cs => cs

/-- Whether a text is a part of a number in base sixty: one digit, or two below sixty. -/
def isSixtieth : List Char → Bool
  | [c] => Digit.isPlain c
  | [c, d] => decide ('0' ≤ c) && decide (c ≤ '5') && Digit.isPlain d
  | _ => false

/-- Whether a text consists of parts of a number in base sixty, each after a colon. -/
def isSixtieths : List Char → List Char → Bool
  | part, [] => isSixtieth part
  | part, c :: rest =>
    if c = ':' then isSixtieth part && isSixtieths [] rest else isSixtieths (part ++ [c]) rest

/-- Whether a text is empty or has parts of a number in base sixty. -/
def isSexagesimalTail : List Char → Bool
  | ':' :: rest => isSixtieths [] rest
  | _ => false

/-- Whether a text is a whole number, in base two, eight, ten or sixteen or in base sixty. -/
def isWhole (cs : List Char) : Bool :=
  match afterSign cs with
  | '0' :: 'b' :: c :: rest => (c :: rest).all fun c => c == '0' || c == '1' || c == '_'
  | '0' :: 'x' :: c :: rest => (c :: rest).all fun c => (Digit.plainValue? 16 c).isSome || c == '_'
  | ['0'] => true
  | '0' :: rest => rest.all fun c => (Digit.plainValue? 8 c).isSome || c == '_'
  | c :: rest =>
    Digit.isPlain c &&
      ((rest.dropWhile isDigitOrLine).isEmpty || isSexagesimalTail (rest.dropWhile isDigitOrLine))
  | [] => false

/-- Whether a text is empty or the exponent of a decimal, with a sign. -/
def isExponent : List Char → Bool
  | [] => true
  | e :: sign :: c :: rest =>
    (e == 'e' || e == 'E') && (sign == '-' || sign == '+') && (c :: rest).all Digit.isPlain
  | _ => false

/-- Whether a text is the fraction of a decimal after its point, with an exponent or without. -/
def isFraction (cs : List Char) : Bool := isExponent (cs.dropWhile isDigitOrLine)

/-- The forms of infinity. -/
def infinities : List String := [".inf", ".Inf", ".INF"]

/-- The forms of not-a-number. -/
def notNumbers : List String := [".nan", ".NaN", ".NAN"]

/-- Whether a text is a number in base sixty with a fraction, its first digits having been
taken. -/
def isSexagesimalDecimal (cs : List Char) : Bool :=
  let tail := (cs.dropWhile (· != '.')).drop 1
  cs.contains '.' && isSexagesimalTail (cs.takeWhile (· != '.')) && tail.all isDigitOrLine

/-- Whether a text is a decimal, a number in base sixty with a fraction, an infinity or
not-a-number. -/
def isDecimal (cs : List Char) : Bool :=
  if infinities.contains (String.ofList (afterSign cs)) then true
  else if notNumbers.contains (String.ofList cs) then true
  else match cs with
    | '.' :: c :: rest => Digit.isPlain c && isFraction rest
    | _ =>
      match afterSign cs with
      | c :: rest =>
        let tail := rest.dropWhile isDigitOrLine
        Digit.isPlain c && (match tail with
          | '.' :: fraction => isFraction fraction
          | tail => isSexagesimalDecimal tail)
      | [] => false

/-- The numbers of a day or moment, each as the digits of its text. -/
structure Timestamp where
  /-- The year. -/
  year : List Char
  /-- The month. -/
  month : List Char
  /-- The day. -/
  day : List Char
  /-- Hour, minute and second, if there are any. -/
  time : Option (List Char × List Char × List Char)
  /-- The fraction of a second. -/
  fraction : List Char
  /-- The offset from universal time, if there is one: whether it is negative, its hours and its
  minutes. -/
  offset : Option (Bool × List Char × List Char)
  deriving DecidableEq

/-- The digits at the start of a text, between two numbers of them, and the text after them. -/
def takeDigits (least most : Nat) (cs : List Char) : Option (List Char × List Char) :=
  let taken := (cs.takeWhile Digit.isPlain).take most
  if taken.length < least then none else some (taken, cs.drop taken.length)

/-- The text after a character. -/
def dropChar (c : Char) : List Char → Option (List Char)
  | d :: rest => if c = d then some rest else none
  | [] => none

/-- Whether a character is a space or tab. -/
def isSpace (c : Char) : Bool := c == ' ' || c == '\t'

/-- The offset of a moment at the end of its text, if there is one. -/
def timestampOffset (cs : List Char) : Option (Option (Bool × List Char × List Char)) :=
  match cs.dropWhile isSpace with
  | [] => if cs.isEmpty then some none else none
  | ['Z'] => some (some (false, [], []))
  | sign :: rest => do
    if sign ≠ '-' ∧ sign ≠ '+' then none
    else
      let (hours, rest) ← takeDigits 1 2 rest
      match rest with
      | [] => pure (some (sign == '-', hours, []))
      | ':' :: rest =>
        let (minutes, rest) ← takeDigits 2 2 rest
        if rest.isEmpty then pure (some (sign == '-', hours, minutes)) else none
      | _ => none

/-- The text of a moment after its day, from the separator on. -/
def timestampTime (year month day cs : List Char) : Option Timestamp := do
  let rest ← match cs with
    | 'T' :: rest => some rest
    | 't' :: rest => some rest
    | c :: rest => if isSpace c then some (rest.dropWhile isSpace) else none
    | [] => none
  let (hour, rest) ← takeDigits 1 2 rest
  let rest ← dropChar ':' rest
  let (minute, rest) ← takeDigits 2 2 rest
  let rest ← dropChar ':' rest
  let (second, rest) ← takeDigits 2 2 rest
  let (fraction, rest) := match rest with
    | '.' :: rest => (rest.takeWhile Digit.isPlain, rest.dropWhile Digit.isPlain)
    | rest => ([], rest)
  let offset ← timestampOffset rest
  pure ⟨year, month, day, some (hour, minute, second), fraction, offset⟩

/-- The numbers of a day or moment. -/
def timestamp? (cs : List Char) : Option Timestamp := do
  let (year, rest) ← takeDigits 4 4 cs
  let rest ← dropChar '-' rest
  let (month, rest) ← takeDigits 1 2 rest
  let rest ← dropChar '-' rest
  let (day, rest) ← takeDigits 1 2 rest
  if rest.isEmpty then pure ⟨year, month, day, none, [], none⟩
  else timestampTime year month day rest

/-- Whether a text suggests a day or moment. A day alone has two digits for month and day. -/
def isTimestamp (cs : List Char) : Bool :=
  match timestamp? cs with
  | some t => t.time.isSome || (t.month.length == 2 && t.day.length == 2)
  | none => false

/-- The words for truth values. -/
def truthWords : List String :=
  ["yes", "Yes", "YES", "no", "No", "NO", "true", "True", "TRUE", "false", "False", "FALSE", "on",
    "On", "ON", "off", "Off", "OFF"]

/-- The words for the absent value. -/
def nullWords : List String := ["~", "null", "Null", "NULL"]

/-- The tag that a line of text suggests. -/
def Tag.ofLine (line : List Char) : Tag :=
  let word := String.ofList line
  if truthWords.contains word then bool
  else if isDecimal line then float
  else if isWhole line then int
  else if word = "<<" then merge
  else if nullWords.contains word then null
  else if isTimestamp line then timestamp
  else if word = "=" then value
  else if word = "!" ∨ word = "&" ∨ word = "*" then unknown
  else str

/-- The tag that a text suggests. An end of line after it makes no difference. -/
def Tag.suggested (text : List Char) : Tag :=
  match text with
  | [] => null
  | ['\n'] => str
  | text => if text.getLast? = some '\n' then ofLine text.dropLast else ofLine text

end RunnerAtlas.Document
