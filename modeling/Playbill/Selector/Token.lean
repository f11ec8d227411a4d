import Playbill.Text.Basic

/-!
# Tokens of selectors

The lexical layer of CSS: a text becomes lexemes, and lexemes become trees of bracketed blocks.

* `Css.Lexeme`: a token; comments leave no trace.
* `Css.name`, `Css.stringBody`, `Css.numeric`, `Css.urlBody`: the longer tokens, each with the text
  after it.
* `Css.lexemes`: all tokens of a text.
* `Css.Tree`, `Css.trees`: tokens with the content of every block gathered; a block that is not
  closed reaches to the end, and a closing bracket that closes nothing is a token of its own.
-/

namespace Playbill.Css

/-- The three kinds of brackets. -/
inductive Bracket
  | round
  | square
  | curly
  deriving DecidableEq

/-- A token. -/
inductive Lexeme
  | ident (name : Text)
  | atKeyword (name : Text)
  | hash (name : Text)
  | idHash (name : Text)
  | string (value : Text)
  | badString
  | url
  | badUrl
  | delim (char : Char)
  | number (signed : Bool) (whole : Option Int)
  | percentage
  | dimension (signed : Bool) (whole : Option Int) (unit : Text)
  | space
  | colon
  | semicolon
  | comma
  | includeMatch
  | dashMatch
  | beginMatch
  | endMatch
  | substringMatch
  | commentOpen
  | commentClose
  | function (name : Text)
  | opening (bracket : Bracket)
  | closing (bracket : Bracket)
  deriving DecidableEq

/-- The character that stands for one that cannot be. -/
def replacement : Char := Char.ofNat 0xFFFD

/-- A line break. -/
def isNewline (c : Char) : Bool :=
  c == '\n' || c == '\r' || c.toNat == 0x0C

/-- The blanks of CSS. -/
def isSpaceChar (c : Char) : Bool :=
  c == ' ' || c == '\t' || isNewline c

/-- An ASCII letter. -/
def isLetter (c : Char) : Bool :=
  ('a' ≤ c && c ≤ 'z') || ('A' ≤ c && c ≤ 'Z')

/-- A hexadecimal digit. -/
def isHexDigit (c : Char) : Bool :=
  isAsciiDigit c || ('a' ≤ c && c ≤ 'f') || ('A' ≤ c && c ≤ 'F')

/-- The value of a hexadecimal digit. -/
def hexValue (c : Char) : Nat :=
  if isAsciiDigit c then Text.digitValue c
  else (asciiLowerChar c).toNat - 'a'.toNat + 10

/-- A character that a name may hold as it is, digits and hyphens aside. -/
def isNameStart (c : Char) : Bool :=
  isLetter c || c == '_' || c.toNat == 0 || 0x80 ≤ c.toNat

/-- A character that a name may hold as it is. -/
def isNameChar (c : Char) : Bool :=
  isNameStart c || isAsciiDigit c || c == '-'

/-- A null character is replaced. -/
def noNull (c : Char) : Char :=
  if c.toNat == 0 then replacement else c

/-- Passes over one blank, a carriage return and a line feed counting as one. -/
def skipOneSpace : Text → Text
  | '\r' :: '\n' :: rest => rest
  | c :: rest => if isSpaceChar c then rest else c :: rest
  | [] => []

/-- The character an escape stands for, after its backslash, and the text after it. -/
def escape (t : Text) : Char × Text :=
  match t with
  | [] => (replacement, [])
  | c :: rest =>
    if isHexDigit c then
      let digits := (t.take 6).takeWhile isHexDigit
      let code := digits.foldl (fun n d => 16 * n + hexValue d) 0
      let char := if code == 0 || !(code.isValidChar) then replacement else Char.ofNat code
      (char, skipOneSpace (t.drop digits.length))
    else (noNull c, rest)

theorem length_skipOneSpace (t : Text) : (skipOneSpace t).length ≤ t.length := by
  unfold skipOneSpace
  split
  · simp only [List.length_cons]; omega
  · split <;> simp
  · simp

theorem length_escape (t : Text) : (escape t).2.length ≤ t.length := by
  unfold escape
  split
  · simp
  · split
    · exact Nat.le_trans (length_skipOneSpace _) (by simp)
    · simp

/-- A name and the text after it. -/
def name (t : Text) : Text × Text :=
  match t with
  | [] => ([], [])
  | c :: rest =>
    if isNameChar c then
      let (tail, after) := name rest
      (noNull c :: tail, after)
    else if c == '\\' && !(rest.head?.any isNewline) then
      let (tail, after) := name (escape rest).2
      ((escape rest).1 :: tail, after)
    else ([], c :: rest)
termination_by t.length
decreasing_by
  · simp
  · have := length_escape rest
    simp only [List.length_cons]
    omega

/-- Whether a name starts the text. -/
def startsName : Text → Bool
  | '-' :: c :: _ => isNameStart c || c == '-' || c == '\\'
  | '\\' :: rest => !(rest.head?.any isNewline)
  | c :: _ => isNameStart c
  | [] => false

/-- A string after its opening quote: its value, or `none` if a line ends inside it, and the text
after it. -/
def stringBody (quote : Char) (t : Text) : Option Text × Text :=
  match t with
  | [] => (some [], [])
  | c :: rest =>
    if c == quote then (some [], rest)
    else if isNewline c then (none, c :: rest)
    else if c == '\\' then
      if rest.isEmpty then (some [], [])
      else if rest.head?.any isNewline then stringBody quote (skipOneSpace rest)
      else
        let (tail, after) := stringBody quote (escape rest).2
        (tail.map ((escape rest).1 :: ·), after)
    else
      let (tail, after) := stringBody quote rest
      (tail.map (noNull c :: ·), after)
termination_by t.length
decreasing_by
  · have := length_skipOneSpace rest
    simp only [List.length_cons]
    omega
  · have := length_escape rest
    simp only [List.length_cons]
    omega
  · simp

/-- Whether a digit starts the text, perhaps after a point. -/
def startsDigits : Text → Bool
  | '.' :: c :: _ => isAsciiDigit c
  | c :: _ => isAsciiDigit c
  | [] => false

/-- Passes over a fraction: whether there is one, and the text after it. -/
def fraction : Text → Bool × Text
  | '.' :: c :: rest =>
    if isAsciiDigit c then (true, rest.dropWhile isAsciiDigit) else (false, '.' :: c :: rest)
  | t => (false, t)

/-- Passes over an exponent: whether there is one, and the text after it. -/
def exponent (t : Text) : Bool × Text :=
  match t with
  | e :: rest =>
    if e == 'e' || e == 'E' then
      let digits := match rest with
        | s :: after => if s == '+' || s == '-' then after else rest
        | [] => []
      if digits.head?.any isAsciiDigit then (true, digits.dropWhile isAsciiDigit) else (false, t)
    else (false, t)
  | [] => (false, t)

/-- A number brought into the range of 32 bits. -/
def clamp32 (n : Int) : Int :=
  max (-shortLimit) (min (shortLimit - 1) n)

/-- A number, a percentage or a dimension, and the text after it. -/
def numeric (t : Text) : Lexeme × Text :=
  let (signed, negative, t) := match t with
    | '-' :: rest => (true, true, rest)
    | '+' :: rest => (true, false, rest)
    | _ => (false, false, t)
  let digits := t.takeWhile isAsciiDigit
  let size : Int := Text.natOfDigits digits
  let (isFraction, t) := fraction (t.dropWhile isAsciiDigit)
  let (isScaled, t) := exponent t
  let whole :=
    if isFraction || isScaled then none else some (clamp32 (if negative then -size else size))
  match t with
  | '%' :: rest => (.percentage, rest)
  | _ =>
    if startsName t then
      let (unit, rest) := name t
      (.dimension signed whole unit, rest)
    else (.number signed whole, t)

/-- Passes over the rest of a malformed address, up to its closing bracket. -/
def badUrlBody : Text → Text
  | [] => []
  | ')' :: rest => rest
  | '\\' :: ')' :: rest => badUrlBody rest
  | '\\' :: '\\' :: rest => badUrlBody rest
  | _ :: rest => badUrlBody rest

/-- Characters that an address must not hold unescaped. -/
def isBadInUrl (c : Char) : Bool :=
  c == '"' || c == '\'' || c == '(' || (1 ≤ c.toNat && c.toNat ≤ 8) || c.toNat == 0x0B ||
    (0x0E ≤ c.toNat && c.toNat ≤ 0x1F) || c.toNat == 0x7F

/-- An address after the blanks at its start, and the text after it. -/
def urlBody (t : Text) : Lexeme × Text :=
  match t with
  | [] => (.url, [])
  | c :: rest =>
    if c == ')' then (.url, rest)
    else if isSpaceChar c then
      match rest.dropWhile isSpaceChar with
      | [] => (.url, [])
      | d :: after => if d == ')' then (.url, after) else (.badUrl, badUrlBody after)
    else if isBadInUrl c then (.badUrl, badUrlBody rest)
    else if c == '\\' then
      if rest.head?.any isNewline then (.badUrl, badUrlBody rest) else urlBody (escape rest).2
    else urlBody rest
termination_by t.length
decreasing_by
  · have := length_escape rest
    simp only [List.length_cons]
    omega
  · simp

/-- A name that starts the text: an identifier, a function or an address, and the text after it. -/
def identLike (t : Text) : Lexeme × Text :=
  let (value, rest) := name t
  match rest with
  | '(' :: inner =>
    if Text.asciiLower value == ("url" : Text) then
      let body := inner.dropWhile isSpaceChar
      if body.head?.any fun c => c == '"' || c == '\'' then (.function value, inner)
      else urlBody body
    else (.function value, inner)
  | _ => (.ident value, rest)

/-- Passes over a comment after its opening. -/
def commentBody : Text → Text
  | [] => []
  | '*' :: '/' :: rest => rest
  | _ :: rest => commentBody rest

/-- The first token of a text, `none` for a comment, and the text after it. -/
def lexeme? (t : Text) : Option Lexeme × Text :=
  match t with
  | [] => (none, [])
  | '/' :: '*' :: rest => (none, commentBody rest)
  | '$' :: '=' :: rest => (some .endMatch, rest)
  | '*' :: '=' :: rest => (some .substringMatch, rest)
  | '^' :: '=' :: rest => (some .beginMatch, rest)
  | '|' :: '=' :: rest => (some .dashMatch, rest)
  | '~' :: '=' :: rest => (some .includeMatch, rest)
  | '<' :: '!' :: '-' :: '-' :: rest => (some .commentOpen, rest)
  | '-' :: '-' :: '>' :: rest => (some .commentClose, rest)
  | '#' :: rest =>
    if startsName rest then
      let (value, after) := name rest
      (some (.idHash value), after)
    else if rest.head?.any fun c => isAsciiDigit c || c == '-' then
      let (value, after) := name rest
      (some (.hash value), after)
    else (some (.delim '#'), rest)
  | '@' :: rest =>
    if startsName rest then
      let (value, after) := name rest
      (some (.atKeyword value), after)
    else (some (.delim '@'), rest)
  | '+' :: rest =>
    if startsDigits rest then
      let (number, after) := numeric t
      (some number, after)
    else (some (.delim '+'), rest)
  | '-' :: rest =>
    if startsDigits rest then
      let (number, after) := numeric t
      (some number, after)
    else if startsName t then
      let (word, after) := identLike t
      (some word, after)
    else (some (.delim '-'), rest)
  | '(' :: rest => (some (.opening .round), rest)
  | ')' :: rest => (some (.closing .round), rest)
  | '[' :: rest => (some (.opening .square), rest)
  | ']' :: rest => (some (.closing .square), rest)
  | ',' :: rest => (some .comma, rest)
  | ':' :: rest => (some .colon, rest)
  | ';' :: rest => (some .semicolon, rest)
  | c :: rest =>
    if isSpaceChar c then (some .space, rest.dropWhile isSpaceChar)
    else if c == '"' || c == '\'' then
      match stringBody c rest with
      | (some value, after) => (some (.string value), after)
      | (none, after) => (some .badString, after)
    else if startsDigits t then
      let (number, after) := numeric t
      (some number, after)
    else if startsName t then
      let (word, after) := identLike t
      (some word, after)
    else if c.toNat == 0x7B then (some (.opening .curly), rest)
    else if c.toNat == 0x7D then (some (.closing .curly), rest)
    else (some (.delim c), rest)

/-- The first so many tokens of a text. -/
def lexemesUpTo : Nat → Text → List Lexeme
  | 0, _ => []
  | _, [] => []
  | fuel + 1, t =>
    match lexeme? t with
    | (some token, rest) => token :: lexemesUpTo fuel rest
    | (none, rest) => lexemesUpTo fuel rest

/-- The tokens of a text. -/
def lexemes (t : Text) : List Lexeme :=
  lexemesUpTo t.length t

/-- A token, or a block with the tokens inside it; the opening token is a bracket or a function. -/
inductive Tree
  | leaf (token : Lexeme)
  | block (start : Lexeme) (content : List Tree)

/-- The bracket that ends what a token opens. -/
def Lexeme.opens? : Lexeme → Option Bracket
  | .function _ => some .round
  | .opening bracket => some bracket
  | _ => none

/-- Blocks that are open, the innermost first, each with what came before it in reverse order. -/
abbrev OpenBlocks := List (Lexeme × List Tree)

/-- Closes every open block at the end of the tokens. -/
def closeAll : OpenBlocks → List Tree → List Tree
  | [], content => content.reverse
  | (start, before) :: outer, content => closeAll outer (.block start content.reverse :: before)

/-- Gathers tokens into the content of the innermost open block. -/
def gather : OpenBlocks → List Tree → List Lexeme → List Tree
  | blocks, content, [] => closeAll blocks content
  | blocks, content, token :: tokens =>
    match token.opens?, token, blocks with
    | some _, _, _ => gather ((token, content) :: blocks) [] tokens
    | none, .closing bracket, (start, before) :: outer =>
      if start.opens? == some bracket then
        gather outer (.block start content.reverse :: before) tokens
      else gather blocks (.leaf token :: content) tokens
    | none, _, _ => gather blocks (.leaf token :: content) tokens

/-- The tokens of a text with their blocks gathered. -/
def trees (t : Text) : List Tree :=
  gather [] [] (lexemes t)

end Playbill.Css
