import Playbill.Text.CaseMap

/-!
# Text

A text is a list of characters; everything the library reads or writes is one.

* `isBlank`: the characters with the property `White_Space`.
* `Text.trim`, `Text.words`, `Text.collapse`: blanks at the ends and between words.
* `Text.pieces`, `Text.joinWith`: cutting at a character and joining with a separator.
* `Text.utf8Length`, `Text.takeBytes?`: lengths and cuts measured in UTF-8 bytes.
* `Text.lower`, `Text.asciiLower`: lower-case forms.
* `Text.ofNat`, `Text.padded`, `Text.ofInt`: decimal numerals.
* `Text.natOfDigits?`, `Text.unsigned?`, `Text.signed?`: reading them back.
-/

namespace Playbill

/-- A text is a list of characters. -/
abbrev Text := List Char

instance : Coe String Text := ⟨String.toList⟩

/-- The characters with the property `White_Space`. -/
def isBlank (c : Char) : Bool :=
  inRanges [(0x09, 0x0D), (0x20, 0x20), (0x85, 0x85), (0xA0, 0xA0), (0x1680, 0x1680),
    (0x2000, 0x200A), (0x2028, 0x2029), (0x202F, 0x202F), (0x205F, 0x205F), (0x3000, 0x3000)] c

/-- An ASCII digit. -/
def isAsciiDigit (c : Char) : Bool :=
  '0' ≤ c && c ≤ '9'

/-- The lower-case form of an ASCII capital; every other character stays. -/
def asciiLowerChar (c : Char) : Char :=
  if 'A' ≤ c && c ≤ 'Z' then Char.ofNat (c.toNat + 32) else c

namespace Text

/-- The text without blanks at its start. -/
def trimStart (t : Text) : Text :=
  t.dropWhile isBlank

/-- The text without blanks at its end. -/
def trimEnd (t : Text) : Text :=
  (t.reverse.dropWhile isBlank).reverse

/-- The text without blanks at its ends. -/
def trim (t : Text) : Text :=
  trimEnd (trimStart t)

/-- The text without the characters of a class at its ends. -/
def trimBy (drop : Char → Bool) (t : Text) : Text :=
  ((t.dropWhile drop).reverse.dropWhile drop).reverse

/-- The stretches between the characters of a class, empty ones included. -/
def piecesBy (cut : Char → Bool) : Text → List Text
  | [] => [[]]
  | c :: rest =>
    if cut c then
      [] :: piecesBy cut rest
    else
      match piecesBy cut rest with
      | [] => [[c]]
      | piece :: pieces => (c :: piece) :: pieces

/-- The stretches between the occurrences of one character. -/
def pieces (separator : Char) (t : Text) : List Text :=
  piecesBy (· == separator) t

/-- The maximal runs of characters that are not blank. -/
def words (t : Text) : List Text :=
  (piecesBy isBlank t).filter (!·.isEmpty)

/-- The texts in order with a separator between neighbours. -/
def joinWith (separator : Text) (ts : List Text) : Text :=
  separator.intercalate ts

/-- The words of a text with one space between neighbours. -/
def collapse (t : Text) : Text :=
  joinWith [' '] (words t)

/-- The length of the UTF-8 encoding. -/
def utf8Length (t : Text) : Nat :=
  t.foldr (fun c size => c.utf8Size + size) 0

/-- The text cut after exactly so many bytes of its encoding, if a character ends there. -/
def takeBytes? : Nat → Text → Option (Text × Text)
  | 0, t => some ([], t)
  | _ + 1, [] => none
  | n + 1, c :: rest =>
    if c.utf8Size ≤ n + 1 then
      (takeBytes? (n + 1 - c.utf8Size) rest).map fun cut => (c :: cut.1, cut.2)
    else
      none
termination_by _ t => t.length

/-- Whether the first character that is not passed over for case has case. -/
def casedNext (t : Text) : Bool :=
  match t.dropWhile isCaseIgnorable with
  | c :: _ => isCased c
  | [] => false

/-- A capital sigma becomes a final one after a letter and before none. -/
def lowerSigma (before after : Text) : Char :=
  if casedNext before && !casedNext after then 'ς' else 'σ'

/-- The lower-case form of the text, given the characters before it in reverse order. -/
def lowerAfter (before : Text) : Text → Text
  | [] => []
  | c :: rest =>
    (if c == 'Σ' then [lowerSigma before rest] else lowerChar c) ++ lowerAfter (c :: before) rest

/-- The lower-case form of a text. -/
def lower (t : Text) : Text :=
  lowerAfter [] t

/-- The text with ASCII capitals made small. -/
def asciiLower (t : Text) : Text :=
  t.map asciiLowerChar

/-- Whether two texts are equal up to the case of ASCII letters. -/
def eqIgnoringAsciiCase (s t : Text) : Bool :=
  asciiLower s == asciiLower t

/-- The decimal numeral of a natural number. -/
def ofNat (n : Nat) : Text :=
  Nat.toDigits 10 n

/-- The decimal numeral, filled with zeros on the left up to a width. -/
def padded (width n : Nat) : Text :=
  List.replicate (width - (ofNat n).length) '0' ++ ofNat n

/-- The decimal numeral of an integer. -/
def ofInt : Int → Text
  | .ofNat n => ofNat n
  | .negSucc n => '-' :: ofNat (n + 1)

/-- The decimal numeral of an integer filled with zeros between sign and digits; the sign counts
towards the width. -/
def paddedInt (width : Nat) : Int → Text
  | .ofNat n => padded width n
  | .negSucc n => '-' :: padded (width - 1) (n + 1)

/-- The value of a digit character. -/
def digitValue (c : Char) : Nat :=
  c.toNat - '0'.toNat

/-- The value of a run of digits, read after a number that has been read already. -/
def digitsAfter (value : Nat) (t : Text) : Nat :=
  t.foldl (fun value c => 10 * value + digitValue c) value

/-- The value of a run of digits. -/
def natOfDigits (t : Text) : Nat :=
  digitsAfter 0 t

/-- The number a text of one or more ASCII digits stands for. -/
def natOfDigits? (t : Text) : Option Nat :=
  if !t.isEmpty && t.all isAsciiDigit then some (natOfDigits t) else none

end Text

/-- One more than the largest 64-bit unsigned number. -/
def wordLimit : Nat := 0x10000000000000000

/-- One more than the largest 64-bit signed number, and the magnitude of the least one. -/
def signedLimit : Int := 0x8000000000000000

/-- The same bound for 32-bit signed numbers. -/
def shortLimit : Int := 0x80000000

namespace Text

/-- Reads an unsigned 64-bit number: digits, possibly after a plus sign. -/
def unsigned? (t : Text) : Option Nat :=
  let digits := match t with
    | '+' :: rest => rest
    | _ => t
  (natOfDigits? digits).filter (· < wordLimit)

/-- Reads a signed 64-bit number: digits, possibly after a sign. -/
def signed? (t : Text) : Option Int :=
  let value := match t with
    | '-' :: rest => (natOfDigits? rest).map fun n => -(n : Int)
    | '+' :: rest => (natOfDigits? rest).map fun n => (n : Int)
    | _ => (natOfDigits? t).map fun n => (n : Int)
  value.filter fun n => -signedLimit ≤ n && n < signedLimit

/-- The text after a given beginning. -/
def dropLeading? : Text → Text → Option Text
  | [], t => some t
  | _ :: _, [] => none
  | p :: ps, c :: cs => if p == c then dropLeading? ps cs else none

end Text

end Playbill
