import Playbill.Decimal.Shortest
import Playbill.Json.Basic

/-!
# Compact JSON text

* `Json.escapeChar`: a quote, a backslash and the controls below U+0020 are escaped; all else
  stands.
* `Json.quote`: a string literal.
* `Json.compact`: the text of a value without spaces.
-/

namespace Playbill.Json

/-- The two lower-case hexadecimal digits of a number below 256. -/
def hexByte (n : Nat) : Text :=
  [Nat.digitChar (n / 16), Nat.digitChar (n % 16)]

/-- The written form of one character inside a string literal. -/
def escapeChar (c : Char) : Text :=
  if c == '"' then ['\\', '"']
  else if c == '\\' then ['\\', '\\']
  else if c.toNat == 0x08 then ['\\', 'b']
  else if c.toNat == 0x09 then ['\\', 't']
  else if c.toNat == 0x0A then ['\\', 'n']
  else if c.toNat == 0x0C then ['\\', 'f']
  else if c.toNat == 0x0D then ['\\', 'r']
  else if c.toNat < 0x20 then ['\\', 'u', '0', '0'] ++ hexByte c.toNat
  else [c]

/-- A string literal. -/
def quote (t : Text) : Text :=
  ['"'] ++ t.flatMap escapeChar ++ ['"']

/-- The text of a number. -/
def Number.text : Number → Text
  | .int n => Text.ofInt n
  | .float x => Shortest.json x

mutual

/-- The text of a value without spaces. -/
def compact : Json → Text
  | .null => "null"
  | .bool true => "true"
  | .bool false => "false"
  | .number n => n.text
  | .string t => quote t
  | .array items => ['['] ++ compactItems items ++ [']']
  | .object members => [Char.ofNat 0x7B] ++ compactMembers members ++ [Char.ofNat 0x7D]

/-- The texts of items with commas between them. -/
def compactItems : List Json → Text
  | [] => []
  | [item] => compact item
  | item :: next :: rest => compact item ++ [','] ++ compactItems (next :: rest)

/-- The texts of members with commas between them. -/
def compactMembers : List (Text × Json) → Text
  | [] => []
  | [(key, value)] => quote key ++ [':'] ++ compact value
  | (key, value) :: next :: rest =>
    quote key ++ [':'] ++ compact value ++ [','] ++ compactMembers (next :: rest)

end

end Playbill.Json
