import Playbill.Decimal.Shortest

/-!
# Floating point with infinities

* `Extended`: a finite number, an infinity or no number.
* `Extended.read?`: reads a decimal numeral or a name.
* `Extended.text`: the positional numeral or the name.
* `Extended.toWord`: the nearest unsigned 64-bit number.
-/

namespace Playbill

/-- A floating-point number, an infinity, or the result of an operation that has none. -/
inductive Extended
  | finite (value : Binary64)
  | infinite (negative : Bool)
  | notNumber
  deriving DecidableEq

namespace Extended

/-- The number nearest to `± digits * 10 ^ exponent`, infinite beyond the largest finite one. -/
def ofDecimal (negative : Bool) (digits : Nat) (exponent : Int) : Extended :=
  match Binary64.ofDecimal? negative digits exponent with
  | some value => .finite value
  | none => .infinite negative

/-- A sign at the start of a text: whether it is a minus, and the text after it. -/
def signed : Text → Bool × Text
  | '-' :: rest => (true, rest)
  | '+' :: rest => (false, rest)
  | t => (false, t)

/-- Reads the exponent that ends a numeral; nothing stands for zero. -/
def exponent? : Text → Option Int
  | [] => some 0
  | c :: rest =>
    if c == 'e' || c == 'E' then
      let (negative, digits) := signed rest
      (Text.natOfDigits? digits).map fun n => if negative then -(n : Int) else n
    else none

/-- Reads an unsigned decimal numeral: digits with at most one point among them and an exponent. -/
def numeral? (negative : Bool) (t : Text) : Option Extended :=
  let whole := t.takeWhile isAsciiDigit
  let rest := t.dropWhile isAsciiDigit
  let (fraction, rest) := match rest with
    | '.' :: rest => (rest.takeWhile isAsciiDigit, rest.dropWhile isAsciiDigit)
    | _ => ([], rest)
  if whole.isEmpty && fraction.isEmpty then none
  else
    (exponent? rest).map fun exponent =>
      ofDecimal negative (Text.natOfDigits (whole ++ fraction)) (exponent - fraction.length)

/-- Reads a numeral, the name of an infinity or the name of no number, possibly after a sign; names
may be written in letters of any case. -/
def read? (t : Text) : Option Extended :=
  let (negative, t) := signed t
  if Text.eqIgnoringAsciiCase t "inf" || Text.eqIgnoringAsciiCase t "infinity" then
    some (.infinite negative)
  else if Text.eqIgnoringAsciiCase t "nan" then some .notNumber
  else numeral? negative t

/-- The number in positional notation, or its name. -/
def text : Extended → Text
  | .finite value => Shortest.plain value
  | .infinite negative => (if negative then "-inf" else "inf").toList
  | .notNumber => "NaN".toList

/-- Whether the number is zero of either sign. -/
def isZero : Extended → Bool
  | .finite value => value.isZero
  | _ => false

/-- The nearest unsigned 64-bit number, a half going away from zero; no number goes to zero. -/
def toWord : Extended → Nat
  | .finite value => min value.round.toNat (wordLimit - 1)
  | .infinite negative => if negative then 0 else wordLimit - 1
  | .notNumber => 0

end Extended

end Playbill
