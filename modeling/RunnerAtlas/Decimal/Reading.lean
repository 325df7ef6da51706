import RunnerAtlas.Decimal.Binary64
import RunnerAtlas.Text.Blank
import RunnerAtlas.Text.Digit
import RunnerAtlas.Text.Quoted

/-!
# Reading numbers

Numbers are read generously: blanks may stand around them, single low lines between their digits,
and the decimal digits of every script count as digits.

## Main definitions

* `RunnerAtlas.Decimal.NumberError` — why a text is not a number.
* `RunnerAtlas.Decimal.readInt` — a whole number in a base.
* `RunnerAtlas.Decimal.readFloat` — a floating-point number.
-/

set_option autoImplicit false

namespace RunnerAtlas.Decimal

open RunnerAtlas.Text

/-- Why a text is not a number. -/
inductive NumberError where
  /-- The text is not a whole number in the base. -/
  | notInt (base : Nat) (text : String)
  /-- The text is not a floating-point number. -/
  | notFloat (text : String)
  /-- A decimal whole number has more digits than are allowed. -/
  | tooManyDigits (count : Nat)
  /-- A whole number is too large for a floating-point number. -/
  | tooLarge
  deriving DecidableEq

/-- The most digits that a decimal whole number may have. -/
def maxDigits : Nat := 4300

/-- The message of an error. A whole number is quoted by at most 200 characters. -/
def NumberError.message : NumberError → String
  | .notInt base text =>
    s!"invalid literal for int() with base {base}: " ++
      String.ofList ((Quoted.ofText text).toList.take 200)
  | .notFloat text => s!"could not convert string to float: {Quoted.ofText text}"
  | .tooManyDigits count =>
    s!"Exceeds the limit ({maxDigits} digits) for integer string conversion: value has {count} " ++
      "digits; use sys.set_int_max_str_digits() to increase the limit"
  | .tooLarge => "int too large to convert to float"

/-- The characters as a number's reader sees them: blanks beyond ASCII as spaces and digits of
every script as those of ASCII. -/
def plainChar (c : Char) : Char :=
  if c.toNat < 0x7f then c
  else if Blank.isBlank c.toNat then ' '
  else match Digit.value? c.toNat with
    | some value => Char.ofNat (0x30 + value)
    | none => c

/-- The text in plain characters, without the blanks around it. -/
def plainText (text : List Char) : List Char :=
  let isBlank (c : Char) : Bool := Blank.isPlainBlank c.toNat
  (((text.map plainChar).dropWhile isBlank).reverse.dropWhile isBlank).reverse

/-- A sign in front of a number, and the text after it. -/
def splitSign : List Char → Bool × List Char
  | '-' :: rest => (true, rest)
  | '+' :: rest => (false, rest)
  | cs => (false, cs)

/-- The text after the mark of a base, which a low line may follow. -/
def dropBaseMark (base : Nat) (cs : List Char) : List Char :=
  let afterMark (rest : List Char) : List Char := match rest with
    | '_' :: rest => rest
    | rest => rest
  match cs with
  | '0' :: mark :: rest =>
    if (base = 16 ∧ (mark = 'x' ∨ mark = 'X')) ∨ (base = 8 ∧ (mark = 'o' ∨ mark = 'O')) ∨
        (base = 2 ∧ (mark = 'b' ∨ mark = 'B')) then afterMark rest
    else cs
  | cs => cs

/-- The values of the digits at the start of a text and what follows them. A low line counts as
read if digits stand on both its sides; a second one in a row, or one that digits do not follow,
makes the text unreadable. -/
def takeDigits (base : Nat) : List Char → Option (List Nat × List Char)
  | [] => some ([], [])
  | '_' :: rest =>
    match rest with
    | [] => none
    | c :: _ => if (Digit.plainValue? base c).isSome then takeDigits base rest else none
  | c :: rest =>
    match Digit.plainValue? base c with
    | none => some ([], c :: rest)
    | some value => (takeDigits base rest).map fun taken => (value :: taken.1, taken.2)

/-- A whole number in a base. -/
def readInt (base : Nat) (text : String) : Except NumberError Int :=
  let (negative, body) := splitSign (plainText text.toList)
  let body := dropBaseMark base body
  let bad : Except NumberError Int := .error (.notInt base text)
  if body.head? = some '_' then bad
  else match takeDigits base body with
    | none => bad
    | some (digits, rest) =>
      if base = 10 ∧ maxDigits < digits.length then .error (.tooManyDigits digits.length)
      else if digits.isEmpty ∨ ¬ rest.isEmpty then bad
      else
        let size : Int := Digit.ofDigits base digits
        .ok (if negative then -size else size)

/-- Whether every low line of a text stands between two digits. -/
def lowLinesBetweenDigits : Char → List Char → Bool
  | previous, [] => previous != '_'
  | previous, c :: rest =>
    (if c == '_' then Digit.isPlain previous
      else previous != '_' || Digit.isPlain c) && lowLinesBetweenDigits c rest

/-- The exponent at the end of a decimal: nothing, or the letter `e`, a sign and digits. -/
def readExponent : List Char → Option Int
  | [] => some 0
  | c :: rest =>
    if c = 'e' ∨ c = 'E' then
      let (negative, digits) := splitSign rest
      if digits.isEmpty ∨ ¬ digits.all Digit.isPlain then none
      else
        let size : Int := Digit.ofDigits 10 (digits.filterMap (Digit.plainValue? 10))
        some (if negative then -size else size)
    else none

/-- A number without sign and low lines: digits around an optional point, then an exponent. -/
def readDecimal (negative : Bool) (cs : List Char) : Option Binary64 :=
  let whole := cs.takeWhile Digit.isPlain
  let rest := cs.dropWhile Digit.isPlain
  let (fraction, rest) := match rest with
    | '.' :: rest => (rest.takeWhile Digit.isPlain, rest.dropWhile Digit.isPlain)
    | rest => ([], rest)
  if whole.isEmpty && fraction.isEmpty then none
  else (readExponent rest).map fun exponent =>
    let digits := Digit.ofDigits 10 ((whole ++ fraction).filterMap (Digit.plainValue? 10))
    Binary64.ofDecimal negative digits (exponent - fraction.length)

/-- A floating-point number: a decimal, an infinity or not-a-number. -/
def readFloat (text : String) : Except NumberError Binary64 :=
  let bad : Except NumberError Binary64 := .error (.notFloat text)
  let cs := plainText text.toList
  if cs.contains '_' && !lowLinesBetweenDigits ' ' cs then bad
  else
    let (negative, body) := splitSign (cs.filter (· != '_'))
    let name := String.ofList (body.map Char.toLower)
    if name = "inf" ∨ name = "infinity" then .ok (.infinite negative)
    else if name = "nan" then .ok .nan
    else match readDecimal negative body with
      | some x => .ok x
      | none => bad

end RunnerAtlas.Decimal
