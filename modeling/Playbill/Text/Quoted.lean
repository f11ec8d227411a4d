import Playbill.Text.Basic
import Playbill.Text.Printable

/-!
# Quoted text

Text between double quotes, as it is shown in messages.  A quote, a backslash and the common
controls get a backslash form; every other character that is not visible on its own is written by
its code point.

* `Quoted.escapeChar`: the written form of one character.
* `Quoted.encode`: the written form of a text, quotes included.
-/

namespace Playbill.Quoted

/-- The hexadecimal code point of a character between braces. -/
def codePoint (c : Char) : Text :=
  ['\\', 'u', Char.ofNat 0x7B] ++ Nat.toDigits 16 c.toNat ++ [Char.ofNat 0x7D]

/-- The written form of one character inside quotes. -/
def escapeChar (c : Char) : Text :=
  if c == Char.ofNat 0 then ['\\', '0']
  else if c == '\t' then ['\\', 't']
  else if c == '\r' then ['\\', 'r']
  else if c == '\n' then ['\\', 'n']
  else if c == '"' || c == '\\' then ['\\', c]
  else if isGraphemeExtend c || !isPrintable c then codePoint c
  else [c]

/-- A text between double quotes. -/
def encode (t : Text) : Text :=
  ['"'] ++ t.flatMap escapeChar ++ ['"']

end Playbill.Quoted
