import Playbill.Calendar.Date
import Playbill.Json.Parser
import Playbill.Settings.Value

/-!
# Scalars of a TOML document

Each reader takes a value from the start of a text and gives the text after it.

* `Toml.text?`: texts between quotes or apostrophes, on one line or on several.
* `Toml.number?`: integers and floating-point numbers.
* `Toml.dateTime?`: dates, times and both, which stand for their written form.
* `Toml.heldDateTime?`: the same inside a text.
-/

namespace Playbill.Toml

/-- The text after a line end at its start. -/
def afterNewline? : Text → Option Text
  | '\n' :: rest => some rest
  | '\r' :: '\n' :: rest => some rest
  | _ => none

/-- A space or a tab. -/
def isSpace (c : Char) : Bool :=
  c == ' ' || c == '\t'

/-- The text without spaces and tabs at its start. -/
def skipSpace (t : Text) : Text :=
  t.dropWhile isSpace

/-- The characters that may stand on a line. -/
def isLineChar (c : Char) : Bool :=
  c == '\t' || (0x20 ≤ c.toNat && c.toNat != 0x7F)

/-- The character with a code point written in hexadecimal digits. -/
def scalar? (digits : Text) : Option Char := do
  let values ← digits.mapM Json.hexValue?
  let code := values.foldl (fun code d => 16 * code + d) 0
  if code < 0xD800 || (0xE000 ≤ code && code < 0x110000) then some (Char.ofNat code) else none

/-- The character of a single-letter escape. -/
def shortEscape? (c : Char) : Option Char :=
  if c == '/' then none else Json.shortEscape? c

/-- The characters up to the closing quote on the same line, after those gathered in reverse. -/
def quoted? (before : Text) : Text → Option (Text × Text)
  | [] => none
  | '"' :: rest => some (before.reverse, rest)
  | '\\' :: 'u' :: a :: b :: c :: d :: rest =>
    match scalar? [a, b, c, d] with
    | some x => quoted? (x :: before) rest
    | none => none
  | '\\' :: 'U' :: a :: b :: c :: d :: e :: f :: g :: h :: rest =>
    match scalar? [a, b, c, d, e, f, g, h] with
    | some x => quoted? (x :: before) rest
    | none => none
  | '\\' :: c :: rest =>
    match shortEscape? c with
    | some x => quoted? (x :: before) rest
    | none => none
  | c :: rest => if isLineChar c && c != '\\' then quoted? (c :: before) rest else none

/-- The characters up to the closing apostrophe on the same line. -/
def literal? (t : Text) : Option (Text × Text) :=
  let body := t.takeWhile fun c => isLineChar c && c != '\''
  match t.dropWhile fun c => isLineChar c && c != '\'' with
  | '\'' :: rest => some (body, rest)
  | _ => none

/-- The end of a text on several lines, which has three marks: up to two more before them belong to
the text. -/
def closing (mark : Char) (before rest : Text) : Text × Text :=
  let more := min 2 (rest.takeWhile (· == mark)).length
  (before.reverse ++ List.replicate more mark, rest.drop more)

/-- The characters up to three quotes, after those gathered in reverse.  A backslash at the end of a
line takes the blanks and line ends after it away, which is what `skipping` is for. -/
def quotedLines? (skipping : Bool) (before : Text) : Text → Option (Text × Text)
  | [] => none
  | '"' :: '"' :: '"' :: rest => some (closing '"' before rest)
  | '\r' :: '\n' :: rest => quotedLines? skipping (if skipping then before else '\n' :: before) rest
  | '\n' :: rest => quotedLines? skipping (if skipping then before else '\n' :: before) rest
  | '\\' :: 'u' :: a :: b :: c :: d :: rest =>
    match scalar? [a, b, c, d] with
    | some x => quotedLines? false (x :: before) rest
    | none => none
  | '\\' :: 'U' :: a :: b :: c :: d :: e :: f :: g :: h :: rest =>
    match scalar? [a, b, c, d, e, f, g, h] with
    | some x => quotedLines? false (x :: before) rest
    | none => none
  | '\\' :: c :: rest =>
    match shortEscape? c with
    | some x => quotedLines? false (x :: before) rest
    | none =>
      if (afterNewline? (skipSpace (c :: rest))).isSome then
        if isSpace c || c == '\n' then quotedLines? true before rest
        else
          match rest with
          | _ :: rest => quotedLines? true before rest
          | [] => none
      else none
  | c :: rest =>
    if skipping && isSpace c then quotedLines? true before rest
    else if isLineChar c && c != '\\' then quotedLines? false (c :: before) rest
    else none

/-- The characters up to three apostrophes, after those gathered in reverse. -/
def literalLines? (before : Text) : Text → Option (Text × Text)
  | [] => none
  | '\'' :: '\'' :: '\'' :: rest => some (closing '\'' before rest)
  | '\r' :: '\n' :: rest => literalLines? ('\n' :: before) rest
  | '\n' :: rest => literalLines? ('\n' :: before) rest
  | c :: rest => if isLineChar c then literalLines? (c :: before) rest else none

/-- The text without a line end at its start. -/
def dropNewline (t : Text) : Text :=
  (afterNewline? t).getD t

/-- A text that starts with a quote or an apostrophe. -/
def text? : Text → Option (Text × Text)
  | '"' :: '"' :: '"' :: rest => quotedLines? false [] (dropNewline rest)
  | '\'' :: '\'' :: '\'' :: rest => literalLines? [] (dropNewline rest)
  | '"' :: rest => quoted? [] rest
  | '\'' :: rest => literal? rest
  | _ => none

/-- Whether every underscore of a run stands between two digits. -/
def wellSpaced (run : Text) : Bool :=
  (Text.pieces '_' run).all (!·.isEmpty)

/-- A run of digits of some kind, single underscores between them left out. -/
def digits? (isDigit : Char → Bool) (t : Text) : Option (Text × Text) :=
  let run := t.takeWhile fun c => isDigit c || c == '_'
  if wellSpaced run then some (run.filter (· != '_'), t.dropWhile fun c => isDigit c || c == '_')
  else none

/-- An integer, which has to fit 64 bits with a sign. -/
def integer? (n : Int) (rest : Text) : Option (Setting × Text) :=
  if -signedLimit ≤ n && n < signedLimit then some (.int n, rest) else none

/-- An integer in a base of up to sixteen. -/
def based? (base : Nat) (t : Text) : Option (Setting × Text) := do
  let isDigit (c : Char) := (Json.hexValue? c).any (· < base)
  let (digits, rest) ← digits? isDigit t
  integer? (digits.foldl (fun n c => base * n + (Json.hexValue? c).getD 0) 0 : Nat) rest

/-- The fraction of a number; nothing stands for no digits. -/
def fraction? : Text → Option (Text × Text)
  | '.' :: rest => digits? isAsciiDigit rest
  | t => some ([], t)

/-- The exponent of a number, if it has one. -/
def exponent? : Text → Option (Option Int × Text)
  | [] => some (none, [])
  | c :: rest =>
    if c == 'e' || c == 'E' then do
      let (negative, rest) := Extended.signed rest
      let (digits, rest) ← digits? isAsciiDigit rest
      let n : Int := Text.natOfDigits digits
      return (some (if negative then -n else n), rest)
    else some (none, c :: rest)

/-- A floating-point number; one above the largest is refused, one below the least is infinite. -/
def float? (negative : Bool) (digits : Text) (exponent : Int) (rest : Text) :
    Option (Setting × Text) :=
  match Extended.ofDecimal negative (Text.natOfDigits digits) exponent with
  | .infinite false => none
  | x => some (.float x, rest)

/-- A decimal number after its sign: an integer, unless it has a fraction or an exponent.  It has no
zeros before its first digit. -/
def decimal? (negative : Bool) (t : Text) : Option (Setting × Text) := do
  let (whole, rest) ← digits? isAsciiDigit t
  if whole.length > 1 && whole.head? == some '0' then none
  else
    let (fraction, rest) ← fraction? rest
    match ← exponent? rest with
    | (none, rest) =>
      if fraction.isEmpty then
        let n : Int := Text.natOfDigits whole
        integer? (if negative then -n else n) rest
      else float? negative (whole ++ fraction) (-fraction.length) rest
    | (some exponent, rest) =>
      float? negative (whole ++ fraction) (exponent - fraction.length) rest

/-- A number. -/
def number? : Text → Option (Setting × Text)
  | '0' :: 'x' :: rest => based? 16 rest
  | '0' :: 'o' :: rest => based? 8 rest
  | '0' :: 'b' :: rest => based? 2 rest
  | t =>
    let (negative, t) := Extended.signed t
    match t with
    | 'i' :: 'n' :: 'f' :: rest => some (.float (.infinite negative), rest)
    | 'n' :: 'a' :: 'n' :: rest => some (.float .notNumber, rest)
    | t => decimal? negative t

/-- A number of a fixed count of digits that lies in a range. -/
def field? (count least greatest : Nat) (t : Text) : Option (Nat × Text) := do
  let digits := t.take count
  let n ← Text.natOfDigits? digits
  if digits.length == count && least ≤ n && n ≤ greatest then some (n, t.drop count) else none

/-- A date. -/
def date? (t : Text) : Option (Text × Text) := do
  let (year, t) ← field? 4 0 9999 t
  let t ← Text.dropLeading? ['-'] t
  let (month, t) ← field? 2 1 12 t
  let t ← Text.dropLeading? ['-'] t
  let (day, t) ← field? 2 1 (monthLength year month) t
  return (Text.padded 4 year ++ ['-'] ++ Text.padded 2 month ++ ['-'] ++ Text.padded 2 day, t)

/-- The fraction of a second down to nanoseconds, without zeros at its end. -/
def secondFraction? : Text → Option (Text × Text)
  | '.' :: rest =>
    let digits := rest.takeWhile isAsciiDigit
    if digits.isEmpty then none
    else
      let shown := ((digits.take 9).reverse.dropWhile (· == '0')).reverse
      some (if shown.isEmpty then [] else '.' :: shown, rest.dropWhile isAsciiDigit)
  | t => some ([], t)

/-- A time of day whose hour is no later than a given one. -/
def time? (latest : Nat) (t : Text) : Option (Text × Text) := do
  let (hour, t) ← field? 2 0 latest t
  let t ← Text.dropLeading? [':'] t
  let (minute, t) ← field? 2 0 59 t
  let t ← Text.dropLeading? [':'] t
  let (second, t) ← field? 2 0 60 t
  let (fraction, t) ← secondFraction? t
  return (Text.padded 2 hour ++ [':'] ++ Text.padded 2 minute ++ [':'] ++ Text.padded 2 second ++
    fraction, t)

/-- The distance of a time from the universal one; nothing stands for a local time. -/
def zone? : Text → Option (Text × Text)
  | [] => some ([], [])
  | c :: rest =>
    if c == 'Z' || c == 'z' then some (['Z'], rest)
    else if c == '+' || c == '-' then do
      let (hour, rest) ← field? 2 0 23 rest
      let rest ← Text.dropLeading? [':'] rest
      let (minute, rest) ← field? 2 0 59 rest
      let sign := if hour == 0 && minute == 0 then '+' else c
      return ([sign] ++ Text.padded 2 hour ++ [':'] ++ Text.padded 2 minute, rest)
    else some ([], c :: rest)

/-- Whether a text goes on with a time after a date: a letter T or a space, and an hour. -/
def timeFollows : Text → Bool
  | c :: h :: h' :: ':' :: _ =>
    (c == 'T' || c == 't' || c == ' ') && isAsciiDigit h && isAsciiDigit h'
  | _ => false

/-- A date, a time, or both. -/
def dateTime? (t : Text) : Option (Text × Text) :=
  match time? 23 t with
  | some read => some read
  | none => do
    let (date, rest) ← date? t
    if timeFollows rest then
      let (time, rest) ← time? 23 (rest.drop 1)
      let (zone, rest) ← zone? rest
      return (date ++ ['T'] ++ time ++ zone, rest)
    else return (date, rest)

/-- Whether a text starts like a date or a time. -/
def startsDate (t : Text) : Bool :=
  ((t.take 4).length == 4 && (t.take 4).all isAsciiDigit && (t.drop 4).head? == some '-') ||
    ((t.take 2).length == 2 && (t.take 2).all isAsciiDigit && (t.drop 2).head? == some ':')

/-- The distance from the universal time at the end of a date and time that a text holds: up to a
day, its minutes not bound to an hour. -/
def lastZone? : Text → Option Text
  | [] => some []
  | ['Z'] => some ['Z']
  | ['z'] => some ['Z']
  | sign :: rest => do
    let (hours, rest) ← field? 2 0 99 rest
    let rest ← Text.dropLeading? [':'] rest
    let (minutes, rest) ← field? 2 0 99 rest
    let total := 60 * hours + minutes
    if (sign == '+' || sign == '-') && rest.isEmpty && total ≤ 24 * 60 then
      let sign := if total == 0 then '+' else sign
      return [sign] ++ Text.padded 2 (total / 60) ++ [':'] ++ Text.padded 2 (total % 60)
    else none

/-- The date, the time or both that the whole of a text holds, in written form.  The end of the day
may be called hour 24. -/
def heldDateTime? (t : Text) : Option Text :=
  if t[2]? == some ':' then do
    let (time, rest) ← time? 24 t
    if rest.isEmpty then some time else none
  else do
    let (date, rest) ← date? t
    match rest with
    | [] => some date
    | c :: rest =>
      if c == 'T' || c == 't' || c == ' ' then
        let (time, rest) ← time? 24 rest
        return date ++ ['T'] ++ time ++ (← lastZone? rest)
      else none

end Playbill.Toml
