import Playbill.Json.Printer
import Playbill.Text.Quoted

/-!
# Decoding JSON into records

* `DecodeError`: why a value does not decode, and `DecodeError.message`.
* `Decoder`: a reader of one kind of value; decoders for numbers, texts, options and lists.
* `RecordField`, `decodeRecord`: records, written as objects or as arrays of their fields in order.
* `decodeTuple`: tuples, written as arrays.
-/

namespace Playbill

/-- Why a value does not decode. -/
inductive DecodeError
  | missingField (name : Text)
  | duplicateField (name : Text)
  | invalidType (found : Text) (expected : Text)
  | invalidValue (found : Text) (expected : Text)
  | invalidLength (length : Nat) (expected : Text)
  | unknownVariant (name : Text) (known : List Text)
  | noVariant (type : Text)
  deriving DecidableEq

/-- A name between grave accents. -/
def ticked (t : Text) : Text :=
  [Char.ofNat 0x60] ++ t ++ [Char.ofNat 0x60]

/-- The wording of a decoding error. -/
def DecodeError.message : DecodeError → Text
  | .missingField name => "missing field ".toList ++ ticked name
  | .duplicateField name => "duplicate field ".toList ++ ticked name
  | .invalidType found expected =>
    "invalid type: ".toList ++ found ++ ", expected ".toList ++ expected
  | .invalidValue found expected =>
    "invalid value: ".toList ++ found ++ ", expected ".toList ++ expected
  | .invalidLength length expected =>
    "invalid length ".toList ++ Text.ofNat length ++ ", expected ".toList ++ expected
  | .unknownVariant name known =>
    "unknown variant ".toList ++ ticked name ++ ", expected ".toList ++
      Text.joinWith " or " (known.map ticked)
  | .noVariant type => "data did not match any variant of untagged enum ".toList ++ type

/-- What a value is, as a message names it. -/
def Json.kind : Json → Text
  | .null => "null"
  | .bool value => "boolean ".toList ++ ticked (if value then "true" else "false")
  | .number (.int n) => "integer ".toList ++ ticked (Text.ofInt n)
  | .number (.float x) => "floating point ".toList ++ ticked (Shortest.json x)
  | .string t => "string ".toList ++ Quoted.encode t
  | .array _ => "sequence"
  | .object _ => "map"

/-- A reader of one kind of value. -/
abbrev Decoder (α : Type) := Json → Except DecodeError α

namespace Decoder

variable {α : Type}

/-- The error of a value of the wrong kind. -/
def wrongType (value : Json) (expected : Text) : Except DecodeError α :=
  .error (.invalidType value.kind expected)

/-- A text. -/
def text : Decoder Text
  | .string t => .ok t
  | value => wrongType value "a string"

/-- A path of the file system. -/
def filePath : Decoder Text
  | .string t => .ok t
  | value => wrongType value "path string"

/-- A truth value. -/
def bool : Decoder Bool
  | .bool b => .ok b
  | value => wrongType value "a boolean"

/-- An unsigned 64-bit integer. -/
def unsigned : Decoder Nat
  | .number (.int n) =>
    if 0 ≤ n then .ok n.toNat
    else .error (.invalidValue (Json.kind (.number (.int n))) "usize")
  | value => wrongType value "usize"

/-- A signed 64-bit integer. -/
def signed : Decoder Int
  | .number (.int n) =>
    if n < signedLimit then .ok n
    else .error (.invalidValue (Json.kind (.number (.int n))) "isize")
  | value => wrongType value "isize"

/-- A value that may be null. -/
def optional (decode : Decoder α) : Decoder (Option α)
  | .null => .ok none
  | value => (decode value).map some

/-- A map from texts to texts. -/
def textMap : Decoder (List (Text × Text))
  | .object members => members.mapM fun (key, value) => (text value).map fun t => (key, t)
  | value => wrongType value "a map"

/-- A variant without content out of a list of named ones, written as its name or as an object with
its name and null. -/
def variant (variants : List (Text × α)) : Decoder α := fun value =>
  let named (name : Text) : Except DecodeError α :=
    match Members.find? name variants with
    | some v => .ok v
    | none => .error (.unknownVariant name (variants.map (·.1)))
  match value with
  | .string name => named name
  | .object [(name, content)] => do
    let v ← named name
    if content.isNull then return v else wrongType content "unit"
  | .object _ => .error (.invalidValue "map" "map with a single key")
  | value => wrongType value "string or map"

end Decoder

/-- A field of a record: its name, other names it may be written under, whether it has to be there,
and how its value goes into the record. -/
structure RecordField (α : Type) where
  name : Text
  aliases : List Text := []
  required : Bool := false
  put : Json → α → Except DecodeError α

namespace RecordField

variable {α β : Type}

/-- A field from a decoder and a setter. -/
def of (name : Text) (decode : Decoder β) (set : β → α → α) : RecordField α where
  name := name
  put value record := (decode value).map fun v => set v record

/-- The field, which has to be there. -/
def must (field : RecordField α) : RecordField α :=
  { field with required := true }

/-- The field, which may also be written under another name. -/
def orNamed (field : RecordField α) (other : Text) : RecordField α :=
  { field with aliases := other :: field.aliases }

/-- Whether a key is a name of the field. -/
def answers (field : RecordField α) (key : Text) : Bool :=
  field.name == key || field.aliases.contains key

end RecordField

variable {α : Type}

/-- Reads the items of an array into the fields in order; `count` items have been read, and `whole`
says what the array should hold. -/
def putItems (whole : Text) :
    List (RecordField α) → List Json → Nat → α → Except DecodeError α
  | [], [], _, record => .ok record
  | [], _ :: rest, count, _ =>
    .error (.invalidLength (count + rest.length + 1) "fewer elements in array")
  | field :: fields, [], count, record =>
    if field.required then .error (.invalidLength count whole)
    else putItems whole fields [] (count + 1) record
  | field :: fields, item :: items, count, record => do
    putItems whole fields items (count + 1) (← field.put item record)

/-- Reads the members of an object into the fields they name; `seen` holds the names met so far. -/
def putMembers (fields : List (RecordField α)) :
    List (Text × Json) → List Text → α → Except DecodeError α
  | [], seen, record =>
    match fields.find? fun field => field.required && !seen.contains field.name with
    | some field => .error (.missingField field.name)
    | none => .ok record
  | (key, value) :: members, seen, record =>
    match fields.find? (·.answers key) with
    | none => putMembers fields members seen record
    | some field =>
      if seen.contains field.name then .error (.duplicateField field.name)
      else do putMembers fields members (field.name :: seen) (← field.put value record)

/-- A record, written as an object or as an array of its fields in order.  A field that is missing
keeps the value it has in `initial`. -/
def decodeRecord (title : Text) (initial : α) (fields : List (RecordField α)) : Decoder α
  | .array items =>
    let whole := "struct ".toList ++ title ++ " with ".toList ++ Text.ofNat fields.length ++
      (if fields.length = 1 then " element" else " elements").toList
    putItems whole fields items 0 initial
  | .object members => putMembers fields members [] initial
  | value => Decoder.wrongType value ("struct ".toList ++ title)

/-- A tuple, written as an array of all its parts. -/
def decodeTuple (initial : α) (parts : List (RecordField α)) : Decoder α := fun value =>
  let whole := "a tuple of size ".toList ++ Text.ofNat parts.length
  match value with
  | .array items => putItems whole (parts.map (·.must)) items 0 initial
  | value => Decoder.wrongType value whole

end Playbill
