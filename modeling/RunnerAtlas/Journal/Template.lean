import RunnerAtlas.Decimal.Rounded
import RunnerAtlas.Journal.Record
import RunnerAtlas.Text.Digit
import RunnerAtlas.Value.Literal
import RunnerAtlas.Value.Mapping

/-!
# Templates of messages

The message of a record is written as a template with places for values. A place begins with a
percent sign and ends with a letter that says how the value is written; between them may stand the
key of the value, signs for its alignment, a width and a precision. Two percent signs stand for one.

Widths and precisions beyond the range of machine integers do not fit, and neither do values without
a text. That memory may be too small for a width is left out.

## Main definitions

* `RunnerAtlas.Journal.Place` — a place for a value.
* `RunnerAtlas.Journal.Template` — a template, read by `Template.ofText?`.
* `RunnerAtlas.Journal.Place.write?` — a value written in its place.
* `RunnerAtlas.Journal.Template.fill?` — a template with its values.
* `RunnerAtlas.Journal.message?`, `RunnerAtlas.Journal.Record.ofTemplate?` — the message, and the
  record, of a template's text and values.
-/

set_option autoImplicit false

namespace RunnerAtlas.Journal

open RunnerAtlas.Text

/-- A width or precision. -/
inductive Extent where
  /-- None is given. -/
  | default
  /-- A number. -/
  | given (n : Nat)
  /-- The next value. -/
  | taken
  deriving DecidableEq

/-- A place for a value. -/
structure Place where
  /-- The key of the value, if it comes from a mapping. -/
  key : Option (List Char)
  /-- The signs between the key and the width. -/
  signs : List Char
  /-- The width. -/
  width : Extent
  /-- The precision. -/
  precision : Extent
  /-- How the value is written. -/
  kind : Char
  deriving DecidableEq

/-- A template: places, each with the text before it, and the text after the last one. -/
structure Template where
  /-- The texts and places. -/
  parts : List (List Char × Place)
  /-- The text at the end. -/
  rest : List Char

/-- A value in digits: its sign, the mark of its base and the digits. -/
structure Written where
  /-- Whether the value is negative. -/
  negative : Bool
  /-- The mark of the base. -/
  mark : List Char
  /-- The digits. -/
  body : List Char

namespace Template

/-- A key up to its closing bracket, from inside a number of brackets on. -/
def keyOf? : Nat → List Char → Option (List Char × List Char)
  | _, [] => none
  | 0, _ => none
  | 1, ')' :: rest => some ([], rest)
  | depth, c :: rest =>
    let depth := if c = ')' then depth - 1 else if c = '(' then depth + 1 else depth
    (keyOf? depth rest).map fun found => (c :: found.1, found.2)

/-- A width or precision that is written as digits or a star. -/
def extentOf (cs : List Char) : Extent × List Char :=
  match cs with
  | '*' :: rest => (.taken, rest)
  | cs =>
    match cs.takeWhile Digit.isPlain with
    | [] => (.default, cs)
    | digits =>
      (.given (Digit.ofDigits 10 (digits.filterMap (Digit.plainValue? 10))),
        cs.dropWhile Digit.isPlain)

/-- A precision after its point; a point alone stands for zero. -/
def precisionOf (cs : List Char) : Extent × List Char :=
  match cs with
  | '.' :: rest =>
    match extentOf rest with
    | (.default, rest) => (.given 0, rest)
    | found => found
  | cs => (.default, cs)

/-- The signs that may stand before a width. -/
def signChars : List Char := ['-', '+', ' ', '#', '0']

/-- A place for a value, after its percent sign. A letter for a size may stand before the last one,
which is no percent sign. -/
def valuePlace? (cs : List Char) : Option (Place × List Char) := do
  let (key, cs) ← match cs with
    | '(' :: rest => (keyOf? 1 rest).map fun found => (some found.1, found.2)
    | cs => some (none, cs)
  let signs := cs.takeWhile signChars.contains
  let (width, cs) := extentOf (cs.dropWhile signChars.contains)
  let (precision, cs) := precisionOf cs
  let cs := match cs with
    | c :: rest => if c = 'h' ∨ c = 'l' ∨ c = 'L' then rest else cs
    | [] => []
  match cs with
  | '%' :: _ => none
  | kind :: rest => some (⟨key, signs, width, precision, kind⟩, rest)
  | [] => none

/-- A place after its percent sign. A second percent sign takes no value. -/
def placeOf? : List Char → Option (Place × List Char)
  | '%' :: rest => some (⟨none, [], .default, .default, '%'⟩, rest)
  | cs => valuePlace? cs

/-- A template of so many characters at most. -/
def ofChars? : Nat → List Char → Option Template
  | 0, cs => some ⟨[], cs⟩
  | fuel + 1, cs =>
    match cs.dropWhile (· != '%') with
    | [] => some ⟨[], cs⟩
    | _ :: rest => do
      let (place, rest) ← placeOf? rest
      let others ← ofChars? fuel rest
      some ⟨(cs.takeWhile (· != '%'), place) :: others.parts, others.rest⟩

/-- The template that a text spells. -/
def ofText? (text : String) : Option Template :=
  ofChars? (text.length + 1) text.toList

end Template

namespace Place

/-- Whether a place has a sign. -/
def has (p : Place) (sign : Char) : Bool := p.signs.contains sign

/-- The whole number that a value is counted as. A fraction is dropped. -/
def whole? : Value → Option Int
  | .bool b => some (if b then 1 else 0)
  | .int n => some n
  | .float (.finite negative significand exponent) =>
    let (num, den) := Decimal.ratioOf significand exponent
    let size : Int := (num / den : Nat)
    some (if negative then -size else size)
  | _ => none

/-- The number that a value is measured as. A whole number that is too large has none. -/
def measure? : Value → Option Binary64
  | .bool b => some (.ofInt (if b then 1 else 0))
  | .int n =>
    match Binary64.ofInt n with
    | .infinite _ => none
    | x => some x
  | .float x => some x
  | _ => none

/-- The capital of a letter of ASCII. -/
def capital (c : Char) : Char := if 'a' ≤ c ∧ c ≤ 'z' then Char.ofNat (c.toNat - 0x20) else c

/-- A whole number in digits of a base, at least as many as the precision says. -/
def inBase (base : Nat) (mark : List Char) (precision : Nat) (n : Int) : Written :=
  ⟨decide (n < 0), mark, Decimal.padZeros precision (Nat.toDigits base n.natAbs)⟩

/-- Whether a number is written with a minus. -/
def isNegative : Binary64 → Bool
  | .nan => false
  | .infinite negative => negative
  | .finite negative _ _ => negative

/-- The largest precision of a whole number. -/
def maxPrecision : Nat := 0x7ffffffc

/-- A value in digits, for the kinds of places that have digits. Only the decimal digits of a whole
number are bounded in number. -/
def digits? (p : Place) (precision : Option Nat) (v : Value) : Option Written :=
  let alternate := p.has '#'
  let whole := if precision.getD 0 ≤ maxPrecision then whole? v else none
  let decimal := whole.filter fun n => (Value.int n).isShowable
  let wholeOnly := match v with
    | .float _ => none
    | _ => whole
  let rounded (style : Decimal.Rounding) (isCapital : Bool) : Option Written :=
    (measure? v).map fun x =>
      let body := Decimal.roundedText style (precision.getD 6) alternate x
      ⟨isNegative x, [], if isCapital then body.map capital else body⟩
  match p.kind with
  | 'd' => decimal.map (inBase 10 [] (precision.getD 0))
  | 'i' => decimal.map (inBase 10 [] (precision.getD 0))
  | 'u' => decimal.map (inBase 10 [] (precision.getD 0))
  | 'o' => wholeOnly.map (inBase 8 (if alternate then ['0', 'o'] else []) (precision.getD 0))
  | 'x' => wholeOnly.map (inBase 16 (if alternate then ['0', 'x'] else []) (precision.getD 0))
  | 'X' =>
    wholeOnly.map fun n =>
      let written := inBase 16 (if alternate then ['0', 'X'] else []) (precision.getD 0) n
      { written with body := written.body.map capital }
  | 'e' => rounded .scientific false
  | 'E' => rounded .scientific true
  | 'f' => rounded .places false
  | 'F' => rounded .places true
  | 'g' => rounded .general false
  | 'G' => rounded .general true
  | _ => none

/-- A character outside of ASCII as an escape. -/
def plainChar (c : Char) : List Char :=
  if c.toNat < 0x80 then [c]
  else if c.toNat < 0x100 then '\\' :: 'x' :: Quoted.hex c.toNat 2
  else if c.toNat < 0x10000 then '\\' :: 'u' :: Quoted.hex c.toNat 4
  else '\\' :: 'U' :: Quoted.hex c.toNat 8

/-- A value as a text, for the kinds of places that have texts. A precision cuts it. The number of a
surrogate stands for no character. -/
def text? (p : Place) (precision : Option Nat) (v : Value) : Option (List Char) :=
  let shown (text : String) : Option (List Char) :=
    if v.isShowable then
      match precision with
      | some n => some (text.toList.take n)
      | none => some text.toList
    else none
  match p.kind with
  | 's' => shown v.display
  | 'r' => shown v.literal
  | 'a' => shown (String.ofList (v.literal.toList.flatMap plainChar))
  | 'c' =>
    match v with
    | .str s =>
      match s.toList with
      | [c] => some [c]
      | _ => none
    | .float _ => none
    | v => (whole? v).bind fun n =>
        if 0 ≤ n ∧ n.toNat.isValidChar then some [Char.ofNat n.toNat] else none
  | _ => none

/-- Characters in a width, filled up with spaces. -/
def padded (leftAligned : Bool) (width : Nat) (cs : List Char) : List Char :=
  let fill := List.replicate (width - cs.length) ' '
  if leftAligned then cs ++ fill else fill ++ cs

/-- Digits in a width. Zeros go between the sign and the digits. -/
def laidOut (p : Place) (leftAligned : Bool) (width : Nat) (w : Written) : List Char :=
  let sign := if w.negative then ['-'] else if p.has '+' then ['+'] else if p.has ' ' then [' ']
    else []
  let start := sign ++ w.mark
  let body :=
    if p.has '0' && !leftAligned then Decimal.padZeros (width - start.length) w.body else w.body
  padded leftAligned width (start ++ body)

/-- A value written in its place, in a width and with a precision. -/
def write? (p : Place) (width : Option Int) (precision : Option Nat) (v : Value) :
    Option (List Char) :=
  let leftAligned := p.has '-' || width.any (· < 0)
  let size := (width.getD 0).natAbs
  match p.digits? precision v with
  | some w => some (p.laidOut leftAligned size w)
  | none => (p.text? precision v).map (padded leftAligned size)

end Place

/-- The values that are still to be written. -/
structure Supply where
  /-- The values in order. -/
  next : List Value
  /-- The mapping from which keys take their values. -/
  keyed : Option Mapping

namespace Supply

/-- The next value, with what is left. -/
def take? (s : Supply) : Option (Value × Supply) :=
  match s.next with
  | v :: rest => some (v, { s with next := rest })
  | [] => none

/-- A width or precision as a machine integer, the largest of which is one less than the limit, with
what is left. -/
def extent? (s : Supply) (limit : Nat) : Extent → Option (Option Int × Supply)
  | .default => some (none, s)
  | .given n => if n < limit then some (some (n : Int), s) else none
  | .taken => do
    let (v, s) ← s.take?
    match v with
    | .int n => if -(limit : Int) ≤ n ∧ n < limit then some (some n, s) else none
    | .bool b => some (some (if b then 1 else 0), s)
    | _ => none

/-- The value of a place written there, with what is left. A percent sign takes no value. -/
def place? (s : Supply) (p : Place) : Option (List Char × Supply) := do
  let s ← match p.key with
    | some key => do
      let v ← Mapping.find? (← s.keyed) (String.ofList key)
      some { s with next := [v] }
    | none => some s
  let (width, s) ← s.extent? 0x8000000000000000 p.width
  let (precision, s) ← s.extent? 0x80000000 p.precision
  if p.kind = '%' then some (['%'], s)
  else do
    let (v, s) ← s.take?
    let written ← p.write? width (precision.map Int.toNat) v
    some (written, s)

/-- Texts and places written one after the other, with what is left. -/
def parts? (s : Supply) : List (List Char × Place) → Option (List Char × Supply)
  | [] => some ([], s)
  | (text, place) :: rest => do
    let (written, s) ← s.place? place
    let (others, s) ← s.parts? rest
    some (text ++ written ++ others, s)

/-- Values in order, or one mapping that has entries. -/
def ofValues (values : List Value) : Supply :=
  match values with
  | [.map (entry :: entries)] => ⟨values, some (entry :: entries)⟩
  | values => ⟨values, none⟩

end Supply

/-- A template with its values, if they fit: all of them are written, unless they are the entries
of a mapping. -/
def Template.fill? (t : Template) (values : List Value) : Option (List Char) := do
  let (written, left) ← (Supply.ofValues values).parts? t.parts
  if left.next.isEmpty || left.keyed.isSome then some (written ++ t.rest) else none

/-- The message of a template's text and values, if they fit. Without values the text is the
message. -/
def message? (text : String) (values : List Value) : Option String :=
  if values.isEmpty then some text
  else ((Template.ofText? text).bind fun t => t.fill? values).map String.ofList

/-- The record of a template's text and values, if they fit. A source without a name is the root of
all sources. -/
def Record.ofTemplate? (level : Int) (source text : String) (values : List Value) : Option Record :=
  (message? text values).map fun message =>
    ⟨level, if source = "" then "root" else source, message⟩

end RunnerAtlas.Journal
