import Playbill.Toml.Table

/-!
# Reading TOML documents

* `Toml.key?`: a dotted key.
* `Toml.value?`: a value at the start of a text, and the text after it.
* `Toml.document?`: a document line by line; `Toml.parse?` reads a whole one.
-/

namespace Playbill.Toml

/-- The characters of a key that stands without quotes. -/
def isBareChar (c : Char) : Bool :=
  ('a' ≤ c && c ≤ 'z') || ('A' ≤ c && c ≤ 'Z') || isAsciiDigit c || c == '_' || c == '-'

/-- One part of a key: bare, between quotes, or between apostrophes. -/
def keyPart? : Text → Option (Text × Text)
  | '"' :: rest => quoted? [] rest
  | '\'' :: rest => literal? rest
  | t =>
    let part := t.takeWhile isBareChar
    if part.isEmpty then none else some (part, t.dropWhile isBareChar)

/-- The most tables and lists that may enclose a value. -/
def depthLimit : Nat := 79

/-- The parts of a dotted key, blanks around them left out. -/
def keyParts? : Nat → Text → Option (List Text × Text)
  | 0, _ => none
  | fuel + 1, t => do
    let (part, rest) ← keyPart? (skipSpace t)
    match skipSpace rest with
    | '.' :: rest => do
      let (parts, rest) ← keyParts? fuel rest
      return (part :: parts, rest)
    | rest => return ([part], rest)

/-- A dotted key: the parts before the last, the last part, and the text after it. -/
def key? (t : Text) : Option (List Text × Text × Text) := do
  let (parts, rest) ← keyParts? depthLimit t
  let last ← parts.getLast?
  return (parts.dropLast, last, rest)

/-- The text without a comment at its start. -/
def skipComment : Text → Text
  | '#' :: rest => rest.dropWhile isLineChar
  | t => t

/-- The text without blanks, comments and line ends at its start. -/
def skipLines : Nat → Text → Text
  | 0, t => t
  | fuel + 1, t =>
    let t := skipComment (skipSpace t)
    match afterNewline? t with
    | some rest => skipLines fuel rest
    | none => t

/-- The text after the end of a line that holds nothing more than blanks and a comment. -/
def lineEnd? (t : Text) : Option Text :=
  match skipComment (skipSpace t) with
  | [] => some []
  | t => afterNewline? t

mutual

/-- A value at the start of a text, and the text after it.  `fuel` bounds the number of steps and
`depth` the number of enclosing lists and tables that may still be opened. -/
def value? : Nat → Nat → Text → Option (TomlNode × Text)
  | 0, _, _ => none
  | fuel + 1, depth, t =>
    match t with
    | [] => none
    | 't' :: 'r' :: 'u' :: 'e' :: rest => some (.scalar (.bool true), rest)
    | 'f' :: 'a' :: 'l' :: 's' :: 'e' :: rest => some (.scalar (.bool false), rest)
    | '[' :: rest =>
      if depth == 0 then none
      else (items? fuel (depth - 1) [] rest).map fun (items, rest) => (.list items, rest)
    | c :: rest =>
      if c == '"' || c == '\'' then (text? t).map fun (s, rest) => (.scalar (.text s), rest)
      else if c.toNat == 0x7B then
        if depth == 0 then none
        else
          match skipSpace rest with
          | d :: after =>
            if d.toNat == 0x7D then some (.table .braced [], after)
            else (members? fuel (depth - 1) [] rest).map fun (members, rest) =>
              (.table .braced members, rest)
          | [] => none
      else if startsDate t then (dateTime? t).map fun (s, rest) => (.dateTime s, rest)
      else (number? t).map fun (n, rest) => (.scalar n, rest)

/-- The items of a list up to its closing bracket, after those gathered in reverse. -/
def items? : Nat → Nat → List TomlNode → Text → Option (List TomlNode × Text)
  | 0, _, _, _ => none
  | fuel + 1, depth, before, t =>
    let t := skipLines t.length t
    match t with
    | ']' :: rest => some (before.reverse, rest)
    | t =>
      match value? fuel depth t with
      | none => none
      | some (item, rest) =>
        match skipLines rest.length rest with
        | ',' :: rest => items? fuel depth (item :: before) rest
        | ']' :: rest => some ((item :: before).reverse, rest)
        | _ => none

/-- The definitions of a table on one line up to its closing brace. -/
def members? : Nat → Nat → List (Text × TomlNode) → Text → Option (List (Text × TomlNode) × Text)
  | 0, _, _, _ => none
  | fuel + 1, depth, before, t =>
    match key? t with
    | some (path, key, '=' :: rest) =>
      match value? fuel depth (skipSpace rest) with
      | none => none
      | some (value, rest) =>
        match TomlNode.define? path key value .headed before with
        | none => none
        | some members =>
          match skipSpace rest with
          | ',' :: rest => members? fuel depth members rest
          | c :: rest => if c.toNat == 0x7D then some (members, rest) else none
          | [] => none
    | _ => none

end

/-- The tables read so far and the path of the one whose definitions follow. -/
structure Document where
  members : List (Text × TomlNode) := []
  current : List Text := []

namespace Document

/-- The document after a header. -/
def openAt? (d : Document) (path : List Text) (key : Text)
    (edit : Text → List (Text × TomlNode) → Option (List (Text × TomlNode))) : Option Document :=
  (TomlNode.within? false (fun _ => edit key) path .headed d.members).map fun members =>
    ⟨members, path ++ [key]⟩

/-- The document after a definition in the current table. -/
def define? (d : Document) (path : List Text) (key : Text) (value : TomlNode) : Option Document :=
  (TomlNode.within? false (TomlNode.define? path key value) d.current .headed d.members).map
    fun members => { d with members }

end Document

/-- Reads one line that is not empty: a header or a definition. -/
def line? (d : Document) : Text → Option (Document × Text)
  | '[' :: '[' :: rest => do
    let (path, key, rest) ← key? rest
    let rest ← Text.dropLeading? [']', ']'] rest
    return (← d.openAt? path key TomlNode.openItem?, rest)
  | '[' :: rest => do
    let (path, key, rest) ← key? rest
    let rest ← Text.dropLeading? [']'] rest
    return (← d.openAt? path key TomlNode.openTable?, rest)
  | t => do
    let (path, key, rest) ← key? t
    let rest ← Text.dropLeading? ['='] rest
    let (value, rest) ← value? (2 * rest.length + 2) depthLimit (skipSpace rest)
    return (← d.define? path key value, rest)

/-- Reads the lines of a document. -/
def document? : Nat → Document → Text → Option Document
  | 0, _, _ => none
  | fuel + 1, d, t =>
    match skipLines t.length t with
    | [] => some d
    | t => do
      let (d, rest) ← line? d t
      document? fuel d (← lineEnd? rest)

/-- The text without a byte order mark at its start. -/
def withoutMark : Text → Text
  | c :: rest => if c.toNat == 0xFEFF then rest else c :: rest
  | [] => []

/-- The members of a document, which must not be a date and time as a whole. -/
def parse? (t : Text) : Option (List (Text × Setting)) := do
  let d ← document? (t.length + 1) {} (withoutMark t)
  match ← TomlNode.closeTable? d.members with
  | .table members => return members
  | _ => none

end Playbill.Toml
