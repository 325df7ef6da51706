import RunnerAtlas.Document.Fault
import RunnerAtlas.Document.Tag
import RunnerAtlas.Text.LetterCase
import RunnerAtlas.Value.Basic

/-!
# Values of scalars

The tag of a scalar says how its text is read.

## Main definitions

* `RunnerAtlas.Document.readTruth`, `RunnerAtlas.Document.readWhole`,
  `RunnerAtlas.Document.readDecimal`, `RunnerAtlas.Document.readTimestamp`,
  `RunnerAtlas.Document.readBinary` — the readings of texts.
* `RunnerAtlas.Document.scalarValue` — the value of a text under a tag.
-/

set_option autoImplicit false

namespace RunnerAtlas.Document

open Calendar RunnerAtlas.Text

/-- A text with its capitals made small. -/
def lowerText (cs : List Char) : List Char :=
  cs.flatMap fun c =>
    if c.toNat = 0x130 then ['i', '\u0307'] else [Char.ofNat (LetterCase.lower c.toNat)]

/-- A truth value by one of its words, without regard to letter case. -/
def readTruth (text : String) : Except ScalarFault Bool :=
  let word := String.ofList (lowerText text.toList)
  if ["yes", "true", "on"].contains word then .ok true
  else if ["no", "false", "off"].contains word then .ok false
  else .error (.noTruth word)

/-- The text after a sign, and whether that is a minus; a text without characters has no first
one to look at. -/
def signed : List Char → Except ScalarFault (Bool × List Char)
  | [] => .error .emptyNumber
  | '-' :: rest => .ok (true, rest)
  | '+' :: rest => .ok (false, rest)
  | cs => .ok (false, cs)

/-- A whole number of characters in a base. -/
def wholeIn (base : Nat) (cs : List Char) : Except ScalarFault Int :=
  (Decimal.readInt base (String.ofList cs)).mapError .number

/-- The parts of a text between colons. -/
def colonParts : List Char → List (List Char)
  | [] => [[]]
  | c :: rest =>
    match colonParts rest with
    | part :: parts => if c = ':' then [] :: part :: parts else (c :: part) :: parts
    | [] => [[c]]

/-- A whole number without its sign: in base two, eight or sixteen by the marks at its start, in
base sixty if it has colons, and else in base ten. -/
def readMagnitude (cs : List Char) : Except ScalarFault Int :=
  match cs with
  | [] => .error .emptyNumber
  | ['0'] => .ok 0
  | '0' :: 'b' :: rest => wholeIn 2 rest
  | '0' :: 'x' :: rest => wholeIn 16 rest
  | '0' :: _ => wholeIn 8 cs
  | cs =>
    if cs.contains ':' then
      ((colonParts cs).mapM (wholeIn 10)).map fun parts =>
        parts.foldl (fun number part => number * 60 + part) 0
    else wholeIn 10 cs

/-- A whole number. Low lines in it are dropped. -/
def readWhole (text : String) : Except ScalarFault Int := do
  let (isNegative, body) ← signed (text.toList.filter (· != '_'))
  let size ← readMagnitude body
  pure (if isNegative then -size else size)

/-- A floating-point number of characters. -/
def decimalOf (cs : List Char) : Except ScalarFault Binary64 :=
  (Decimal.readFloat (String.ofList cs)).mapError .number

/-- The value of a whole number as a floating-point number, which must not be too large. -/
def floatOfInt (n : Int) : Except ScalarFault Binary64 :=
  match Binary64.ofInt n with
  | .infinite _ => .error (.number .tooLarge)
  | x => .ok x

/-- The sum of parts of a number in base sixty, the last one first, each times its power of the
base. -/
def sumOfSixtieths : Binary64 → Int → List Binary64 → Except ScalarFault Binary64
  | sum, _, [] => .ok sum
  | sum, base, part :: parts => do
    let weight ← floatOfInt base
    sumOfSixtieths (sum.add (part.mul weight)) (base * 60) parts

/-- A floating-point number without its sign. -/
def readSize (cs : List Char) : Except ScalarFault Binary64 := do
  if cs.contains ':' then
    let parts ← (colonParts cs).mapM decimalOf
    sumOfSixtieths (Binary64.zero false) 1 parts.reverse
  else decimalOf cs

/-- A floating-point number. Low lines in it are dropped, and letter case makes no difference. -/
def readDecimal (text : String) : Except ScalarFault Binary64 := do
  let (isNegative, body) ← signed (lowerText (text.toList.filter (· != '_')))
  if body = ".inf".toList then pure (.infinite isNegative)
  else if body = ".nan".toList then pure .nan
  else
    let size ← readSize body
    pure (if isNegative then size.neg else size)

/-- The number that digits spell. -/
def numberOf (cs : List Char) : Nat :=
  Digit.ofDigits 10 (cs.filterMap (Digit.plainValue? 10))

/-- The millionths of a second of a fraction; what is finer is dropped. -/
def microsOf (fraction : List Char) : Nat :=
  numberOf (fraction.take 6 ++ List.replicate (6 - fraction.length) '0')

/-- The day or moment of a timestamp. -/
def Timestamp.value (t : Timestamp) : Except FieldError Value :=
  let date := Date.make (numberOf t.year) (numberOf t.month) (numberOf t.day)
  match t.time with
  | none => date.map .date
  | some (hour, minute, second) => do
    let offset ← match t.offset with
      | none => pure none
      | some (isNegative, hours, minutes) =>
        let size : Int := numberOf hours * 60 + numberOf minutes
        (checkOffset (if isNegative then -size else size)).map some
    let date ← date
    (Moment.make date (numberOf hour) (numberOf minute) (numberOf second) (microsOf t.fraction)
      offset).map .moment

/-- A day or moment. An end of line after it makes no difference. -/
def readTimestamp (text : String) : Except ScalarFault Value :=
  let cs := text.toList
  let line := if cs.getLast? = some '\n' then cs.dropLast else cs
  match timestamp? line with
  | some t => t.value.mapError .calendar
  | none => .error .noMoment

/-- The value of a character in base sixty-four. -/
def base64Value? (c : Char) : Option Nat :=
  if 'A' ≤ c ∧ c ≤ 'Z' then some (c.toNat - 0x41)
  else if 'a' ≤ c ∧ c ≤ 'z' then some (c.toNat - 0x47)
  else if Digit.isPlain c then some (c.toNat + 4)
  else if c = '+' then some 62
  else if c = '/' then some 63
  else none

/-- The octets of characters in base sixty-four, four for three octets. How many characters of a
group have been read, what is left of the last one, and how many signs of padding came after it are
carried along. Other characters are skipped, and complete padding ends the text. -/
def base64Octets : Nat → Nat → Nat → List Char → Option (List UInt8)
  | 0, _, _, [] => some []
  | _, _, _, [] => none
  | count, left, pads, c :: rest =>
    if c = '=' then
      if 2 ≤ count then
        if 4 ≤ count + pads + 1 then some [] else base64Octets count left (pads + 1) rest
      else base64Octets count left pads rest
    else match base64Value? c with
      | none => base64Octets count left pads rest
      | some value =>
        if count = 0 then base64Octets 1 value 0 rest
        else if count = 1 then
          (base64Octets 2 (value % 16) 0 rest).map (UInt8.ofNat (left * 4 + value / 16) :: ·)
        else if count = 2 then
          (base64Octets 3 (value % 4) 0 rest).map (UInt8.ofNat (left * 16 + value / 4) :: ·)
        else (base64Octets 0 0 0 rest).map (UInt8.ofNat (left * 64 + value) :: ·)

/-- Octets in base sixty-four, written in ASCII. -/
def readBinary (text : String) : Option (List UInt8) :=
  if text.toList.all fun c => decide (c.toNat < 0x80) then base64Octets 0 0 0 text.toList else none

/-- The value of a text under a tag. Tags of collections, and those that stand for no kind of
value, have none. -/
def scalarValue (tag : Tag) (text : String) : Except Fault Value :=
  match tag with
  | .null => .ok .null
  | .bool => ((readTruth text).map Value.bool).mapError .scalar
  | .int => ((readWhole text).map Value.int).mapError .scalar
  | .float => ((readDecimal text).map Value.float).mapError .scalar
  | .timestamp => (readTimestamp text).mapError .scalar
  | .binary =>
    match readBinary text with
    | some octets => .ok (.bytes octets)
    | none => .error .malformed
  | .str => .ok (.str text)
  | _ => .error .malformed

end RunnerAtlas.Document
