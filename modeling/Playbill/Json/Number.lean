import Playbill.Json.Basic

/-!
# Numbers in JSON text

A literal without fraction and exponent that fits 64 bits is an integer.  Every other literal is a
binary number: its digits are gathered into a 64-bit significand, later digits being dropped, and
the significand is then scaled by a power of ten with one rounding for each step.

* `Json.Number.scale?`: the scaling of a significand.
* `Json.Number.read?`: a number at the start of a text, and the text after it.
-/

namespace Playbill.Json.Number

/-- Digits gathered so far and the number of digits dropped because they no longer fit. -/
structure Gathered where
  significand : Nat
  taken : Nat
  dropped : Nat

/-- Takes one more digit; after the first dropped digit every later one is dropped too. -/
def Gathered.push (g : Gathered) (digit : Char) : Gathered :=
  let next := 10 * g.significand + Text.digitValue digit
  if g.dropped == 0 && next < wordLimit then
    { g with significand := next, taken := g.taken + 1 }
  else
    { g with dropped := g.dropped + 1 }

/-- Gathers a run of digits after a significand. -/
def gather (significand : Nat) (digits : Text) : Gathered :=
  digits.foldl Gathered.push ⟨significand, 0, 0⟩

/-- Divides by ten so many times, in steps of at most `10 ^ 308`. -/
def scaleDown (x : Binary64) (places : Nat) : Binary64 :=
  if places ≤ 308 then x.div (Binary64.powerOfTen places)
  else if x.isZero then x
  else scaleDown (x.div (Binary64.powerOfTen 308)) (places - 308)
termination_by places

/-- `± significand * 10 ^ exponent`, or `none` when it is too large. -/
def scale? (negative : Bool) (significand : Nat) (exponent : Int) : Option Binary64 :=
  let x := Binary64.ofNat significand
  let scaled :=
    if exponent < 0 then some (scaleDown x (-exponent).toNat)
    else if exponent ≤ 308 then x.mul? (Binary64.powerOfTen exponent.toNat)
    else if x.isZero then some x
    else none
  scaled.map (·.withSign negative)

/-- A literal without fraction and exponent. -/
def whole? (negative : Bool) (digits : Text) : Option Number :=
  let n := Text.natOfDigits digits
  if !negative && n < wordLimit then some (.int n)
  else if negative && 0 < n && n ≤ signedLimit then some (.int (-(n : Int)))
  else
    let g := gather 0 digits
    (scale? negative g.significand g.dropped).map .float

/-- The exponent of a literal: `none` when it is malformed, and otherwise its value and the rest. -/
def exponentPart? : Text → Option (Int × Text)
  | c :: rest =>
    if c == 'e' || c == 'E' then
      let (negative, rest) := match rest with
        | '-' :: rest => (true, rest)
        | '+' :: rest => (false, rest)
        | _ => (false, rest)
      let (digits, rest) := rest.span isAsciiDigit
      if digits.isEmpty then none
      else
        let n : Int := Text.natOfDigits digits
        some (if negative then -n else n, rest)
    else
      some (0, c :: rest)
  | [] => some (0, [])

/-- The value of a literal with a fraction or an exponent.  An exponent that does not fit 32 bits
gives zero if it is negative or the digits are all zero, and is an error otherwise. -/
def decimal? (negative : Bool) (whole fraction : Text) (exponent : Int) : Option Number :=
  let front := gather 0 whole
  let back := gather front.significand fraction
  if exponent.natAbs ≥ shortLimit then
    if back.significand != 0 && exponent > 0 then none
    else some (.float (Binary64.zero negative))
  else
    (scale? negative back.significand (front.dropped - back.taken + exponent)).map .float

/-- A number without its sign at the start of a text, and the text after it. -/
def readUnsigned? (negative : Bool) (t : Text) : Option (Number × Text) :=
  let (whole, rest) := t.span isAsciiDigit
  if whole.isEmpty || (whole.length > 1 && whole.head? == some '0') then none
  else
    match rest with
    | '.' :: rest =>
      let (fraction, rest) := rest.span isAsciiDigit
      if fraction.isEmpty then none
      else (exponentPart? rest).bind fun (exponent, rest) =>
        (decimal? negative whole fraction exponent).map fun number => (number, rest)
    | c :: _ =>
      if c == 'e' || c == 'E' then
        (exponentPart? rest).bind fun (exponent, rest) =>
          (decimal? negative whole [] exponent).map fun number => (number, rest)
      else
        (whole? negative whole).map fun number => (number, rest)
    | [] => (whole? negative whole).map fun number => (number, rest)

/-- A number at the start of a text, and the text after it. -/
def read? : Text → Option (Number × Text)
  | '-' :: rest => readUnsigned? true rest
  | t => readUnsigned? false t

end Playbill.Json.Number
