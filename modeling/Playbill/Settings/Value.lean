import Playbill.Decimal.Extended
import Playbill.Json.Basic

/-!
# Values of settings

A setting comes from a file or from the environment before it is known what it is for, so it is
turned into what is asked for when it is read.

* `Setting`: a value, and `Setting.ofJson`.
* `Setting.toBool?`, `Setting.toWord?`, `Setting.toText?`: readings of a scalar.
* `Setting.overlay`: a value laid over another; tables are merged key by key.
* `Setting.put?`: a value put at a path.
-/

namespace Playbill

/-- A value of a setting.  The members of a table are kept in ascending order of their keys. -/
inductive Setting
  | null
  | bool (value : Bool)
  | int (value : Int)
  | float (value : Extended)
  | text (value : Text)
  | list (items : List Setting)
  | table (members : List (Text × Setting))

/-- The way from a table down to a value: keys of tables and positions in lists, which count from
the end when they are negative. -/
inductive SettingStep
  | member (key : Text)
  | item (position : Int)
  deriving DecidableEq

namespace Setting

/-- The texts that say yes. -/
def yesWords : List Text :=
  ["true", "on", "yes"]

/-- The texts that say no. -/
def noWords : List Text :=
  ["false", "off", "no"]

/-- A truth value: a number is true unless it is zero, and a text has to say yes or no. -/
def toBool? : Setting → Option Bool
  | .bool b => some b
  | .int n => some (n != 0)
  | .float x => some (!x.isZero)
  | .text t =>
    let word := Text.lower t
    if word == "1".toList || yesWords.contains word then some true
    else if word == "0".toList || noWords.contains word then some false
    else none
  | _ => none

/-- An unsigned 64-bit number: one for true, the nearest one to a fraction, and what a text reads
as. -/
def toWord? : Setting → Option Nat
  | .bool b => some b.toNat
  | .int n => if 0 ≤ n then some n.toNat else none
  | .float x => some x.toWord
  | .text t =>
    let word := Text.lower t
    if yesWords.contains word then some 1
    else if noWords.contains word then some 0
    else Text.unsigned? word
  | _ => none

/-- A text: scalars are written out. -/
def toText? : Setting → Option Text
  | .text t => some t
  | .bool b => some (if b then "true" else "false")
  | .int n => some (Text.ofInt n)
  | .float x => some x.text
  | _ => none

/-- The text of a value that is a text already. -/
def asText? : Setting → Option Text
  | .text t => some t
  | _ => none

/-- A map from keys to texts. -/
def toTextMap? : Setting → Option (List (Text × Text))
  | .table members => members.mapM fun (key, value) => value.toText?.map fun t => (key, t)
  | _ => none

/-- The value of a field of a record, which is a table, or a list of the fields in order.  The
outer option says whether the value is a record at all. -/
def field? (key : Text) (position : Nat) : Setting → Option (Option Setting)
  | .table members => some (Members.find? key members)
  | .list items => some items[position]?
  | _ => none

/-- The members of a table; other values have none. -/
def members : Setting → List (Text × Setting)
  | .table members => members
  | _ => []

/-- The items of a list; other values have none. -/
def items : Setting → List Setting
  | .list items => items
  | _ => []

/-- An integer that does not fit 64 bits with a sign is kept as a floating-point number. -/
def ofNumber : Json.Number → Setting
  | .int n => if n < signedLimit then .int n else .float (.ofDecimal false n.toNat 0)
  | .float x => .float (.finite x)

mutual

/-- The setting that JSON stands for. -/
def ofJson : Json → Setting
  | .null => .null
  | .bool b => .bool b
  | .number n => ofNumber n
  | .string t => .text t
  | .array items => .list (ofItems items)
  | .object members => .table (ofMembers members)

/-- The settings that the items of an array stand for. -/
def ofItems : List Json → List Setting
  | [] => []
  | item :: rest => ofJson item :: ofItems rest

/-- The settings that the members of an object stand for. -/
def ofMembers : List (Text × Json) → List (Text × Setting)
  | [] => []
  | (key, value) :: rest => (key, ofJson value) :: ofMembers rest

end

mutual

/-- The table with a value laid over the member of a key, whose capitals are made small.  A table
is merged into the member; any other value replaces it. -/
def overlay (key : Text) : Setting → Setting → Setting
  | .table above, below =>
    let key := Text.lower key
    let member := (Members.find? key below.members).getD (.table [])
    .table (Members.insert key (overlayAll above member) below.members)
  | value, below => .table (Members.insert (Text.lower key) value below.members)

/-- A value with every one of some members laid over it. -/
def overlayAll : List (Text × Setting) → Setting → Setting
  | [], below => below
  | (key, value) :: rest, below => overlayAll rest (overlay key value below)

end

/-- More items than a list may have. -/
def itemLimit : Nat := 0x100000000

/-- The place that a position stands for in a list of a given length.  Before its first item a list
has no places; after its last it has them up to the limit. -/
def place? (length : Nat) (position : Int) : Option Nat :=
  if 0 ≤ position then
    if position.toNat < itemLimit then some position.toNat else none
  else if (-position).toNat ≤ length then some (length - (-position).toNat)
  else none

/-- A list with nulls at its end so that a place is in it. -/
def extended (place : Nat) (items : List Setting) : List Setting :=
  items ++ List.replicate (place + 1 - items.length) .null

/-- Puts a value at the end of a path and makes the tables and lists on the way; there is none when
the path holds a position without a place. -/
def put? (value : Setting) : List SettingStep → Setting → Option Setting
  | [], _ => some value
  | [.member key], below => some (overlay key value below)
  | .member key :: path, below => do
    let key := Text.lower key
    let member := (Members.find? key below.members).getD .null
    return .table (Members.insert key (← put? value path member) below.members)
  | .item position :: path, below => do
    let place ← place? below.items.length position
    let items := extended place below.items
    return .list (items.set place (← put? value path (items[place]?.getD .null)))

end Setting

end Playbill
