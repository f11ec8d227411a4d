/-!
# Binary floating point

The finite numbers of the 64-bit binary format, with exact integer arithmetic for rounding.

* `Binary64`: sign, significand and exponent of a finite number.
* `Binary64.nearest?`: the number nearest to a quotient, a tie going to the even significand.
* `Binary64.ofNat`, `Binary64.mul?`, `Binary64.div`: correctly rounded operations.
* `Binary64.ofDecimal?`: the number nearest to a decimal.
-/

namespace Playbill

/-- The number `± significand * 2 ^ exponent`.  A significand has at most 53 bits; it has exactly 53
unless the exponent is the least one. -/
structure Binary64 where
  negative : Bool
  significand : Nat
  exponent : Int
  deriving DecidableEq

namespace Binary64

/-- The least exponent of a significand. -/
def leastExponent : Int := -1074

/-- The largest exponent of a significand. -/
def greatestExponent : Int := 971

/-- The least significand of 53 bits. -/
def leastNormal : Nat := 0x10000000000000

/-- Zero with a sign. -/
def zero (negative : Bool) : Binary64 :=
  ⟨negative, 0, leastExponent⟩

/-- Whether the number is zero of either sign. -/
def isZero (x : Binary64) : Bool :=
  x.significand == 0

/-- The number with a given sign. -/
def withSign (negative : Bool) (x : Binary64) : Binary64 :=
  { x with negative }

/-- Numerator and denominator of the magnitude. -/
def magnitude (x : Binary64) : Nat × Nat :=
  (x.significand <<< x.exponent.toNat, 1 <<< (-x.exponent).toNat)

/-- The quotient `num / den` counted in units of `2 ^ exponent`: whole units, remainder, divisor. -/
def units (num den : Nat) (exponent : Int) : Nat × Nat × Nat :=
  let num := num <<< (-exponent).toNat
  let den := den <<< exponent.toNat
  (num / den, num % den, den)

/-- The exponent at which the quotient has 53 bits before the point, but no less than the least. -/
def exponentFor (num den : Nat) : Int :=
  let guess : Int := max leastExponent ((num.log2 : Int) - den.log2 - 53)
  if (units num den guess).1 < 2 * leastNormal then guess else guess + 1

/-- The number nearest to `num / den`, or `none` beyond the largest finite number. -/
def nearest? (negative : Bool) (num den : Nat) : Option Binary64 :=
  if num == 0 || den == 0 then
    some (zero negative)
  else
    let exponent := exponentFor num den
    let (whole, remainder, divisor) := units num den exponent
    let up := 2 * remainder > divisor || (2 * remainder == divisor && whole % 2 == 1)
    let significand := if up then whole + 1 else whole
    let rounded : Binary64 :=
      if significand == 2 * leastNormal then ⟨negative, leastNormal, exponent + 1⟩
      else ⟨negative, significand, exponent⟩
    if rounded.exponent ≤ greatestExponent then some rounded else none

/-- The nearest number to a natural number below `2 ^ 64`. -/
def ofNat (n : Nat) : Binary64 :=
  (nearest? false n 1).getD (zero false)

/-- The rounded product, or `none` when it overflows. -/
def mul? (x y : Binary64) : Option Binary64 :=
  nearest? (x.negative != y.negative) (x.magnitude.1 * y.magnitude.1)
    (x.magnitude.2 * y.magnitude.2)

/-- The rounded quotient; the divisor is at least one in magnitude. -/
def div (x y : Binary64) : Binary64 :=
  (nearest? (x.negative != y.negative) (x.magnitude.1 * y.magnitude.2)
    (x.magnitude.2 * y.magnitude.1)).getD (zero false)

/-- The power of ten, rounded; `exponent` is at most 308. -/
def powerOfTen (exponent : Nat) : Binary64 :=
  (nearest? false (Nat.pow 10 exponent) 1).getD (zero false)

/-- The number nearest to `± digits * 10 ^ exponent`; far exponents are cut off first. -/
def ofDecimal? (negative : Bool) (digits : Nat) (exponent : Int) : Option Binary64 :=
  if digits == 0 then
    some (zero negative)
  else
    let size : Int := (Nat.toDigits 10 digits).length + exponent
    if size > 400 then none
    else if size < -400 then some (zero negative)
    else nearest? negative (digits * Nat.pow 10 exponent.toNat) (Nat.pow 10 (-exponent).toNat)

/-- The nearest integer, a half going away from zero. -/
def round (x : Binary64) : Int :=
  let (num, den) := x.magnitude
  let size : Int := (2 * num + den) / (2 * den)
  if x.negative then -size else size

end Binary64

end Playbill
