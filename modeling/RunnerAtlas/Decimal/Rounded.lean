import RunnerAtlas.Decimal.Shortest

/-!
# Rounded decimals

A floating-point number is written with a fixed number of places or of digits, rounded from its
exact value, a tie going to the even digit.

## Main definitions

* `RunnerAtlas.Decimal.Rounding` — the ways of writing: with places, with an exponent, or with
  whichever suits the magnitude.
* `RunnerAtlas.Decimal.roundedText` — the text of a number without its sign.
-/

set_option autoImplicit false

namespace RunnerAtlas.Decimal

/-- How a number is written. -/
inductive Rounding where
  /-- With places after the point. -/
  | places
  /-- With an exponent. -/
  | scientific
  /-- With an exponent if the magnitude is small or large, and without zeros at the end. -/
  | general
  deriving DecidableEq

/-- A positive number as a quotient of whole numbers. -/
def ratioOf (significand : Nat) (exponent : Int) : Nat × Nat :=
  match exponent with
  | .ofNat up => (significand * Nat.pow 2 up, 1)
  | .negSucc down => (significand, Nat.pow 2 (down + 1))

/-- A quotient rounded to units of a power of ten. -/
def unitsAt (num den : Nat) (power : Int) : Nat :=
  let scaled := inTens num den power
  Binary64.roundDiv scaled.1 scaled.2

/-- A quotient rounded to a number of digits, with the power of ten of the first one. -/
def significant (num den count : Nat) : List Char × Int :=
  if num = 0 then (List.replicate count '0', 0)
  else
    let power := leadingPower num den
    let digits := Nat.toDigits 10 (unitsAt num den (power - ((count : Int) - 1)))
    if count < digits.length then (digits.take count, power + 1) else (digits, power)

/-- A whole part and a fraction with a point between them, which is kept before an empty fraction
only if asked for. -/
def pointed (whole fraction : List Char) (keepsPoint : Bool) : List Char :=
  if fraction.isEmpty && !keepsPoint then whole else whole ++ '.' :: fraction

/-- An exponent of two digits at least. -/
def exponentText (power : Int) : List Char :=
  'e' :: (if power < 0 then '-' else '+') :: padZeros 2 (Nat.toDigits 10 power.natAbs)

/-- A quotient with places after the point. -/
def placesText (num den places : Nat) (keepsPoint : Bool) : List Char :=
  let digits := padZeros (places + 1) (Nat.toDigits 10 (unitsAt num den (0 - (places : Int))))
  let whole := digits.length - places
  pointed (digits.take whole) (digits.drop whole) keepsPoint

/-- A quotient with places after the point and an exponent. -/
def scientificText (num den places : Nat) (keepsPoint : Bool) : List Char :=
  let (digits, power) := significant num den (places + 1)
  pointed (digits.take 1) (digits.drop 1) keepsPoint ++ exponentText power

/-- Digits without the zeros at their end. -/
def withoutZeros (digits : List Char) : List Char :=
  (digits.reverse.dropWhile (· == '0')).reverse

/-- A quotient with a number of digits, at least one, in the way that suits its magnitude.
Zeros at the end are kept only with the point. -/
def generalText (num den count : Nat) (keepsPoint : Bool) : List Char :=
  let count := if count = 0 then 1 else count
  let (digits, power) := significant num den count
  let trimmed (fraction : List Char) : List Char :=
    if keepsPoint then fraction else withoutZeros fraction
  if power < -4 ∨ count ≤ power then
    pointed (digits.take 1) (trimmed (digits.drop 1)) keepsPoint ++ exponentText power
  else match power with
    | .ofNat up => pointed (digits.take (up + 1)) (trimmed (digits.drop (up + 1))) keepsPoint
    | .negSucc zeros =>
      pointed ['0'] (trimmed (List.replicate zeros '0' ++ digits)) keepsPoint

/-- A number written in one of the ways, with so many places or digits, without its sign. -/
def roundedText (style : Rounding) (count : Nat) (keepsPoint : Bool) : Binary64 → List Char
  | .nan => "nan".toList
  | .infinite _ => "inf".toList
  | .finite _ significand exponent =>
    let (num, den) := ratioOf significand exponent
    match style with
    | .places => placesText num den count keepsPoint
    | .scientific => scientificText num den count keepsPoint
    | .general => generalText num den count keepsPoint

end RunnerAtlas.Decimal
