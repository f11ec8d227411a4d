import Playbill.Decimal.Binary64
import Playbill.Text.Basic

/-!
# The shortest decimal that reads back

A finite binary number is written with the fewest digits that round to it again, and of those with
the digits nearest to it.

* `Interval.holds`: whether a decimal rounds to the number.
* `Shortest.digits`: the digits and the decimal exponent of the leading one.
* `Shortest.json`, `Shortest.plain`: the two layouts in use.
-/

namespace Playbill.Shortest

/-- The numbers between `low / den` and `high / den`; the ends belong to it if `closed`. -/
structure Interval where
  low : Nat
  value : Nat
  high : Nat
  den : Nat
  closed : Bool

/-- The decimals that round to a positive number: half a unit to each side, a quarter below a power
of two, the ends included when the significand is even. -/
def Interval.ofBinary (x : Binary64) : Interval :=
  let scale := 1 <<< x.exponent.toNat
  let narrow := x.significand == Binary64.leastNormal && x.exponent > Binary64.leastExponent
  let below := if narrow then 1 else 2
  { low := (4 * x.significand - below) * scale
    value := 4 * x.significand * scale
    high := (4 * x.significand + 2) * scale
    den := 4 <<< (-x.exponent).toNat
    closed := x.significand % 2 == 0 }

/-- Whether `num / den` lies in the interval. -/
def Interval.holds (i : Interval) (num den : Nat) : Bool :=
  let n := num * i.den
  if i.closed then i.low * den ≤ n && n ≤ i.high * den
  else i.low * den < n && n < i.high * den

/-- The exponent `k` with `10 ^ k ≤ num / den < 10 ^ (k + 1)`. -/
def leadingExponent (num den : Nat) : Int :=
  let guess : Int := ((Nat.toDigits 10 num).length : Int) - (Nat.toDigits 10 den).length
  if Nat.pow 10 (-guess).toNat * num < Nat.pow 10 guess.toNat * den then guess - 1 else guess

/-- The unit of the last of `count` digits, as a fraction. -/
def unitAt (leading : Int) (count : Nat) : Nat × Nat :=
  let exponent := leading - (count : Int) + 1
  (Nat.pow 10 exponent.toNat, Nat.pow 10 (-exponent).toNat)

/-- The multiple of the unit that lies in the interval and is nearest to the value, an exact tie
going to the even multiple. -/
def candidate? (i : Interval) (unit : Nat × Nat) : Option Nat :=
  let num := i.value * unit.2
  let den := i.den * unit.1
  let below := num / den
  let lower := i.holds (below * unit.1) unit.2
  let upper := i.holds ((below + 1) * unit.1) unit.2
  let twice := 2 * (num % den)
  if lower && upper then
    some (if twice < den || (twice == den && below % 2 == 0) then below else below + 1)
  else if lower then some below
  else if upper then some (below + 1)
  else none

/-- The first digit count from `count` on at which some decimal reads back. -/
def search (i : Interval) (leading : Int) : Nat → Nat → Nat × Nat
  | 0, count => (0, count)
  | fuel + 1, count =>
    match candidate? i (unitAt leading count) with
    | some multiple => (multiple, count)
    | none => search i leading fuel (count + 1)

/-- The shortest digits of a positive number and the exponent of the leading digit. -/
def digits (x : Binary64) : Text × Int :=
  let i := Interval.ofBinary x
  let leading := leadingExponent i.value i.den
  let (multiple, count) := search i leading 17 1
  let text := Text.ofNat multiple
  let leading := leading + (text.length - count)
  let kept := (text.reverse.dropWhile (· == '0')).reverse
  (if kept.isEmpty then ['0'] else kept, leading)

/-- Digits in positional notation: without a point if the number is whole. -/
def positional (digits : Text) (leading : Int) : Text :=
  if leading < 0 then
    ['0', '.'] ++ List.replicate (-leading - 1).toNat '0' ++ digits
  else
    let before := leading.toNat + 1
    let whole := digits.take before ++ List.replicate (before - digits.length) '0'
    let fraction := digits.drop before
    if fraction.isEmpty then whole else whole ++ ['.'] ++ fraction

/-- Digits in scientific notation, with a signed exponent. -/
def scientific (digits : Text) (leading : Int) : Text :=
  let mantissa := match digits with
    | [] => ['0']
    | [d] => [d]
    | d :: rest => d :: '.' :: rest
  let exponent := if leading < 0 then '-' :: Text.ofNat (-leading).toNat
    else '+' :: Text.ofNat leading.toNat
  mantissa ++ ['e'] ++ exponent

/-- The sign of a number. -/
def sign (x : Binary64) : Text :=
  if x.negative then ['-'] else []

/-- A number in positional notation with as many digits as it takes. -/
def plain (x : Binary64) : Text :=
  if x.isZero then
    sign x ++ ['0']
  else
    let (ds, leading) := digits x
    sign x ++ positional ds leading

/-- A number as it stands in JSON: positional with a fraction, `.0` if need be, when the leading
exponent lies from -5 to 15, and scientific otherwise. -/
def json (x : Binary64) : Text :=
  if x.isZero then
    sign x ++ ['0', '.', '0']
  else
    let (ds, leading) := digits x
    if -5 ≤ leading && leading < 16 then
      let text := positional ds leading
      sign x ++ text ++ (if text.contains '.' then [] else ['.', '0'])
    else
      sign x ++ scientific ds leading

end Playbill.Shortest
