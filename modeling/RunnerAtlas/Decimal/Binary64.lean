/-!
# Binary floating-point numbers of 64 bits

A finite number is kept as a sign, a whole significand below `2 ^ 53` and a power of two not
below `2 ^ -1074`. The significand is at least `2 ^ 52` unless the power is the smallest, so equal
numbers other than the two zeros have one form, and equality of forms is equality of bits.

## Main definitions

* `RunnerAtlas.Binary64` — the numbers, with the infinities and one not-a-number.
* `RunnerAtlas.Binary64.ofRatio` — a quotient rounded to the nearest number, a tie going to the
  even significand.
* `RunnerAtlas.Binary64.ofDecimal`, `RunnerAtlas.Binary64.ofInt` — decimals and whole numbers,
  rounded.
* `RunnerAtlas.Binary64.add`, `RunnerAtlas.Binary64.mul` — rounded sums and products.
* `RunnerAtlas.Binary64.same`, `RunnerAtlas.Binary64.equalsInt` — numeric equality.
-/

set_option autoImplicit false

namespace RunnerAtlas

/-- A binary floating-point number of 64 bits. -/
inductive Binary64 where
  /-- Not a number. -/
  | nan
  /-- An infinity. -/
  | infinite (negative : Bool)
  /-- The number `significand * 2 ^ exponent`, negated if `negative`. -/
  | finite (negative : Bool) (significand : Nat) (exponent : Int)
  deriving DecidableEq

namespace Binary64

/-- The smallest exponent of a finite number. -/
def minExponent : Int := -1074

/-- The largest exponent of a finite number. -/
def maxExponent : Int := 971

/-- The smallest significand that is not for the smallest exponent only. -/
def leastNormal : Nat := 0x10000000000000

/-- The number below which significands are. -/
def significandBound : Nat := 0x20000000000000

/-- The zero of a sign. -/
def zero (negative : Bool) : Binary64 := .finite negative 0 minExponent

/-- A significand and an exponent as a number: a significand that reached `2 ^ 53` moves the
exponent up, and past the largest exponent lies infinity. -/
def pack (negative : Bool) (significand : Nat) (exponent : Int) : Binary64 :=
  let significand' := if significand < significandBound then significand else significand / 2
  let exponent' := if significand < significandBound then exponent else exponent + 1
  if maxExponent < exponent' then .infinite negative else .finite negative significand' exponent'

/-- The quotient of two whole numbers rounded to a whole number, a tie going to the even one. -/
def roundDiv (num den : Nat) : Nat :=
  let quotient := num / den
  let rest := num % den
  if den < 2 * rest ∨ (den = 2 * rest ∧ quotient % 2 = 1) then quotient + 1 else quotient

/-- The quotient `num / den` divided by `2 ^ exponent`, as a pair of whole numbers. -/
private def scale (num den : Nat) (exponent : Int) : Nat × Nat :=
  match exponent with
  | .ofNat up => (num, den * Nat.pow 2 up)
  | .negSucc down => (num * Nat.pow 2 (down + 1), den)

/-- A quotient of whole numbers, `den` being positive, rounded to the nearest number. -/
def ofRatio (negative : Bool) (num den : Nat) : Binary64 :=
  if num = 0 then zero negative
  else
    let guess : Int := (Nat.log2 num : Int) - (Nat.log2 den : Int) - 53
    let guess := if guess < minExponent then minExponent else guess
    let scaled := scale num den guess
    let exponent := if scaled.1 / scaled.2 < significandBound then guess else guess + 1
    let scaled := scale num den exponent
    pack negative (roundDiv scaled.1 scaled.2) exponent

/-- The number `significand * 2 ^ exponent` rounded to the nearest one. -/
def ofScaled (negative : Bool) (significand : Nat) (exponent : Int) : Binary64 :=
  match exponent with
  | .ofNat up => ofRatio negative (significand * Nat.pow 2 up) 1
  | .negSucc down => ofRatio negative significand (Nat.pow 2 (down + 1))

/-- The decimal `digits * 10 ^ exponent` rounded to the nearest number. Decimals that are far out
of range are settled by their count of digits, so that no power of ten grows beyond need. -/
def ofDecimal (negative : Bool) (digits : Nat) (exponent : Int) : Binary64 :=
  if digits = 0 then zero negative
  else
    let top : Int := exponent + (Nat.toDigits 10 digits).length
    if 310 < top then .infinite negative
    else if top < -326 then zero negative
    else match exponent with
      | .ofNat up => ofRatio negative (digits * Nat.pow 10 up) 1
      | .negSucc down => ofRatio negative digits (Nat.pow 10 (down + 1))

/-- A whole number rounded to the nearest number. -/
def ofInt (n : Int) : Binary64 := ofRatio (decide (n < 0)) n.natAbs 1

/-- The number with the other sign. -/
def neg : Binary64 → Binary64
  | .nan => .nan
  | .infinite negative => .infinite !negative
  | .finite negative significand exponent => .finite (!negative) significand exponent

/-- The whole number that a finite number's significand stands for, with its sign, in units of a
smaller or equal power of two. -/
private def inUnits (negative : Bool) (significand : Nat) (exponent unit : Int) : Int :=
  let size : Int := (significand * Nat.pow 2 (exponent - unit).toNat : Nat)
  if negative then -size else size

/-- The rounded sum. -/
def add : Binary64 → Binary64 → Binary64
  | .nan, _ => .nan
  | _, .nan => .nan
  | .infinite a, .infinite b => if a = b then .infinite a else .nan
  | .infinite a, .finite .. => .infinite a
  | .finite .., .infinite b => .infinite b
  | .finite a m e, .finite b n f =>
    let unit := if e ≤ f then e else f
    let sum := inUnits a m e unit + inUnits b n f unit
    if sum = 0 then zero (a && b) else ofScaled (decide (sum < 0)) sum.natAbs unit

/-- The rounded product. -/
def mul : Binary64 → Binary64 → Binary64
  | .nan, _ => .nan
  | _, .nan => .nan
  | .infinite a, .infinite b => .infinite (a != b)
  | .infinite a, .finite b n _ => if n = 0 then .nan else .infinite (a != b)
  | .finite a m _, .infinite b => if m = 0 then .nan else .infinite (a != b)
  | .finite a m e, .finite b n f => ofScaled (a != b) (m * n) (e + f)

/-- Whether a number is one of the two zeros. -/
def isZero : Binary64 → Bool
  | .finite _ significand _ => significand == 0
  | _ => false

/-- Numeric equality: the two zeros are equal, and not-a-number equals nothing. -/
def same (x y : Binary64) : Bool :=
  match x, y with
  | .nan, _ => false
  | _, .nan => false
  | x, y => (x.isZero && y.isZero) || x == y

/-- The whole number that a number is, if it is one. -/
def toInt? : Binary64 → Option Int
  | .finite negative significand exponent =>
    let size? : Option Nat := match exponent with
      | .ofNat up => some (significand * Nat.pow 2 up)
      | .negSucc down =>
        let unit := Nat.pow 2 (down + 1)
        if significand % unit = 0 then some (significand / unit) else none
    size?.map fun size => if negative then -(size : Int) else (size : Int)
  | _ => none

/-- Whether a number equals a whole number. -/
def equalsInt (x : Binary64) (n : Int) : Bool := x.toInt? == some n

end Binary64

end RunnerAtlas
