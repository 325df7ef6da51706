import RunnerAtlas.Decimal.Binary64

/-!
# Shortest decimals

A floating-point number is written with the fewest digits that read back as it, and among those
with the digits nearest to it. Small and large magnitudes are written with an exponent.

## Main definitions

* `RunnerAtlas.Decimal.Digits` — a positive decimal as its digits and the power of its first one.
* `RunnerAtlas.Decimal.shortest` — the shortest digits of a positive number.
* `RunnerAtlas.Decimal.Style` — where the decimal point and the exponent are written.
* `RunnerAtlas.Decimal.floatText` — the text of a number.
-/

set_option autoImplicit false

namespace RunnerAtlas.Decimal

/-- The decimal `0.d₁d₂… * 10 ^ (power + 1)`, that is with its first digit at `10 ^ power`. -/
structure Digits where
  /-- The digits, the first one not being zero. -/
  digits : List Char
  /-- The power of ten of the first digit. -/
  power : Int

/-- The power of ten of the first digit of the quotient of two positive whole numbers. -/
def leadingPower (num den : Nat) : Int :=
  if den ≤ num then ((Nat.toDigits 10 (num / den)).length : Int) - 1
  else
    let inverse := (den + num - 1) / num
    (0 : Int) - (Nat.toDigits 10 (inverse - 1)).length

/-- A quotient of whole numbers in units of a power of ten, as a pair of whole numbers. -/
def inTens (num den : Nat) (power : Int) : Nat × Nat :=
  match power with
  | .ofNat up => (num, den * Nat.pow 10 up)
  | .negSucc down => (num * Nat.pow 10 (down + 1), den)

/-- The interval of the decimals that read back as `significand * 2 ^ exponent`: its ends and the
number itself in quarters of `2 ^ exponent`, over a common denominator. The lower half-gap is
smaller just above a power of two, and the ends belong to it if the significand is even. -/
structure Interval where
  /-- The lower end. -/
  low : Nat
  /-- The number. -/
  mid : Nat
  /-- The upper end. -/
  high : Nat
  /-- The common denominator. -/
  den : Nat
  /-- Whether the ends read back as the number. -/
  closed : Bool

/-- The interval of a positive number. -/
def Interval.of (significand : Nat) (exponent : Int) : Interval :=
  let gap := if significand = Binary64.leastNormal ∧ Binary64.minExponent < exponent then 1 else 2
  let closed := significand % 2 == 0
  match exponent - 2 with
  | .ofNat up =>
    let unit := Nat.pow 2 up
    ⟨(4 * significand - gap) * unit, 4 * significand * unit, (4 * significand + 2) * unit, 1,
      closed⟩
  | .negSucc down =>
    ⟨4 * significand - gap, 4 * significand, 4 * significand + 2, Nat.pow 2 (down + 1), closed⟩

/-- Whether the decimal `units * 10 ^ power` lies in the interval. -/
def Interval.holds (interval : Interval) (units : Nat) (power : Int) : Bool :=
  let low := inTens interval.low interval.den power
  let high := inTens interval.high interval.den power
  if interval.closed then decide (low.1 ≤ units * low.2) && decide (units * high.2 ≤ high.1)
  else decide (low.1 < units * low.2) && decide (units * high.2 < high.1)

/-- The multiple of `10 ^ power` in the interval that is nearest to the number, if there is one:
one of its two neighbours on that grid. -/
def Interval.nearest? (interval : Interval) (power : Int) : Option Nat :=
  let scaled := inTens interval.mid interval.den power
  let below := scaled.1 / scaled.2
  let rest := scaled.1 % scaled.2
  match interval.holds below power, interval.holds (below + 1) power with
  | false, false => none
  | true, false => some below
  | false, true => some (below + 1)
  | true, true =>
    if 2 * rest < scaled.2 then some below
    else if scaled.2 < 2 * rest then some (below + 1)
    else if below % 2 = 0 then some below else some (below + 1)

/-- The digits of a whole number of units of `10 ^ power`, without the zeros at their end. -/
private def Digits.ofUnits (units : Nat) (power : Int) : Digits :=
  let all := Nat.toDigits 10 units
  ⟨(all.reverse.dropWhile (· == '0')).reverse, power + all.length - 1⟩

/-- The shortest digits of a positive number: the coarsest of the grids of one digit, of two
digits and so on that has a point in the interval. Seventeen digits always suffice. -/
def shortest (significand : Nat) (exponent : Int) : Digits :=
  let interval := Interval.of significand exponent
  let first := leadingPower interval.mid interval.den
  let rec search : Nat → Int → Digits
    | 0, power => Digits.ofUnits
        (Binary64.roundDiv (inTens interval.mid interval.den power).1
          (inTens interval.mid interval.den power).2) power
    | fuel + 1, power =>
      match interval.nearest? power with
      | some units => Digits.ofUnits units power
      | none => search fuel (power - 1)
  search 16 first

/-- How a decimal is laid out. -/
structure Style where
  /-- The smallest power of the first digit written without an exponent. -/
  smallest : Int
  /-- The smallest power of the first digit that is too large to be written so. -/
  largest : Int
  /-- The least number of digits of an exponent. -/
  exponentWidth : Nat

/-- Numbers from a ten-thousandth up to below `10 ^ 16` are written without an exponent, and an
exponent has two digits at least. -/
def plain : Style := ⟨-4, 16, 2⟩

/-- A text filled up with zeros on the left. -/
def padZeros (width : Nat) (cs : List Char) : List Char :=
  List.replicate (width - cs.length) '0' ++ cs

/-- The text of a positive decimal. A whole number keeps one zero after the point. -/
def Digits.text (style : Style) (d : Digits) : List Char :=
  if d.power < style.smallest ∨ style.largest ≤ d.power then
    let mantissa := match d.digits with
      | [] => []
      | [c] => [c]
      | c :: rest => c :: '.' :: rest
    let sign := if d.power < 0 then '-' else '+'
    mantissa ++ 'e' :: sign :: padZeros style.exponentWidth (Nat.toDigits 10 d.power.natAbs)
  else match d.power with
    | .ofNat whole =>
      let head := d.digits.take (whole + 1)
      let tail := d.digits.drop (whole + 1)
      head ++ List.replicate (whole + 1 - head.length) '0' ++ '.' ::
        (if tail.isEmpty then ['0'] else tail)
    | .negSucc zeros => '0' :: '.' :: List.replicate zeros '0' ++ d.digits

/-- The text of a number. -/
def floatText : Binary64 → String
  | .nan => "nan"
  | .infinite negative => if negative then "-inf" else "inf"
  | .finite negative significand exponent =>
    let size :=
      if significand = 0 then ['0', '.', '0'] else (shortest significand exponent).text plain
    String.ofList (if negative then '-' :: size else size)

end RunnerAtlas.Decimal
