import Playbill.Json.Number

/-!
# Reading JSON text

* `Json.stringBody?`: the characters of a string literal after its opening quote.
* `Json.value?`: a value at the start of a text, and the text after it.
* `Json.parse?`: a text that is one value with blanks around it.
-/

namespace Playbill.Json

/-- The blanks that may stand between the parts of a JSON text. -/
def isSpace (c : Char) : Bool :=
  c == ' ' || c == '\n' || c == '\t' || c == '\r'

/-- The text without blanks at its start. -/
def skipSpace (t : Text) : Text :=
  t.dropWhile isSpace

/-- The value of a hexadecimal digit. -/
def hexValue? (c : Char) : Option Nat :=
  if isAsciiDigit c then some (Text.digitValue c)
  else if 'a' ≤ c && c ≤ 'f' then some (c.toNat - 'a'.toNat + 10)
  else if 'A' ≤ c && c ≤ 'F' then some (c.toNat - 'A'.toNat + 10)
  else none

/-- The number that four hexadecimal digits stand for. -/
def unit? (a b c d : Char) : Option Nat := do
  let a ← hexValue? a
  let b ← hexValue? b
  let c ← hexValue? c
  let d ← hexValue? d
  return ((a * 16 + b) * 16 + c) * 16 + d

/-- The character of a single-letter escape. -/
def shortEscape? (c : Char) : Option Char :=
  if c == '"' || c == '\\' || c == '/' then some c
  else if c == 'b' then some (Char.ofNat 0x08)
  else if c == 'f' then some (Char.ofNat 0x0C)
  else if c == 'n' then some '\n'
  else if c == 'r' then some '\r'
  else if c == 't' then some '\t'
  else none

/-- The characters up to the closing quote, after those gathered in reverse, and the text after the
quote.  A pair of surrogate units is one character; a unit without its partner is an error. -/
def stringBody? (before : Text) : Text → Option (Text × Text)
  | [] => none
  | '"' :: rest => some (before.reverse, rest)
  | '\\' :: 'u' :: a :: b :: c :: d :: rest =>
    match unit? a b c d with
    | none => none
    | some high =>
      if 0xDC00 ≤ high && high < 0xE000 then none
      else if 0xD800 ≤ high && high < 0xDC00 then
        match rest with
        | '\\' :: 'u' :: a :: b :: c :: d :: rest =>
          match unit? a b c d with
          | none => none
          | some low =>
            if 0xDC00 ≤ low && low < 0xE000 then
              stringBody?
                (Char.ofNat ((high - 0xD800) * 0x400 + (low - 0xDC00) + 0x10000) :: before) rest
            else none
        | _ => none
      else stringBody? (Char.ofNat high :: before) rest
  | '\\' :: c :: rest =>
    match shortEscape? c with
    | some c => stringBody? (c :: before) rest
    | none => none
  | c :: rest =>
    if c.toNat < 0x20 || c == '\\' then none else stringBody? (c :: before) rest

mutual

/-- A value at the start of a text, and the text after it.  `fuel` bounds the number of steps and
`depth` the number of enclosing arrays and objects that may still be opened. -/
def value? : Nat → Nat → Text → Option (Json × Text)
  | 0, _, _ => none
  | fuel + 1, depth, t =>
    match skipSpace t with
    | '"' :: rest => (stringBody? [] rest).map fun (s, rest) => (.string s, rest)
    | '[' :: rest =>
      if depth == 0 then none
      else
        match skipSpace rest with
        | ']' :: rest => some (.array [], rest)
        | _ => (items? fuel (depth - 1) [] rest).map fun (items, rest) => (.array items, rest)
    | 'n' :: 'u' :: 'l' :: 'l' :: rest => some (.null, rest)
    | 't' :: 'r' :: 'u' :: 'e' :: rest => some (.bool true, rest)
    | 'f' :: 'a' :: 'l' :: 's' :: 'e' :: rest => some (.bool false, rest)
    | c :: rest =>
      if c.toNat == 0x7B then
        if depth == 0 then none
        else
          match skipSpace rest with
          | d :: after =>
            if d.toNat == 0x7D then some (.object [], after)
            else (members? fuel (depth - 1) [] rest).map fun (members, rest) =>
              (ofMembers members, rest)
          | [] => none
      else (Number.read? (c :: rest)).map fun (n, rest) => (.number n, rest)
    | [] => none

/-- The items of an array up to its closing bracket, after those gathered in reverse. -/
def items? : Nat → Nat → List Json → Text → Option (List Json × Text)
  | 0, _, _, _ => none
  | fuel + 1, depth, before, t =>
    match value? fuel depth t with
    | none => none
    | some (item, rest) =>
      match skipSpace rest with
      | ',' :: rest => items? fuel depth (item :: before) rest
      | ']' :: rest => some ((item :: before).reverse, rest)
      | _ => none

/-- The members of an object up to its closing brace, after those gathered in reverse. -/
def members? : Nat → Nat → List (Text × Json) → Text → Option (List (Text × Json) × Text)
  | 0, _, _, _ => none
  | fuel + 1, depth, before, t =>
    match skipSpace t with
    | '"' :: rest =>
      match stringBody? [] rest with
      | none => none
      | some (key, rest) =>
        match skipSpace rest with
        | ':' :: rest =>
          match value? fuel depth rest with
          | none => none
          | some (value, rest) =>
            match skipSpace rest with
            | ',' :: rest => members? fuel depth ((key, value) :: before) rest
            | c :: rest =>
              if c.toNat == 0x7D then some (((key, value) :: before).reverse, rest) else none
            | [] => none
        | _ => none
    | _ => none

end

/-- The most arrays and objects that may enclose a value. -/
def depthLimit : Nat := 127

/-- A text that is one value with blanks around it. -/
def parse? (t : Text) : Option Json :=
  match value? (2 * t.length + 2) depthLimit t with
  | some (value, rest) => if (skipSpace rest).isEmpty then some value else none
  | none => none

end Playbill.Json
