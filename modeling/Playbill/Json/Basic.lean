import Playbill.Decimal.Binary64
import Playbill.Text.Basic

/-!
# JSON values

* `Json`: a value; the members of an object are kept in ascending order of their keys.
* `Members.insert`, `Members.ofList`: objects built member by member, a later one replacing an
  earlier one of the same key; `Members.put` keeps the order of writing instead.
* `Json.get?`, `Json.item?`: members of objects and items of arrays.
-/

namespace Playbill

/-- A number is an integer of 64 bits, signed or not, or a binary floating-point number. -/
inductive Json.Number
  | int (value : Int)
  | float (value : Binary64)
  deriving DecidableEq

/-- A JSON value. -/
inductive Json
  | null
  | bool (value : Bool)
  | number (value : Json.Number)
  | string (value : Text)
  | array (items : List Json)
  | object (members : List (Text × Json))

/-- The strict order of keys: by the code points of their characters. -/
def keyBefore : Text → Text → Bool
  | _, [] => false
  | [], _ :: _ => true
  | c :: cs, d :: ds => c < d || (c == d && keyBefore cs ds)

namespace Members

variable {α : Type}

/-- Puts a member at its place, replacing one of the same key. -/
def insert (key : Text) (value : α) : List (Text × α) → List (Text × α)
  | [] => [(key, value)]
  | (k, v) :: rest =>
    if k == key then (key, value) :: rest
    else if keyBefore key k then (key, value) :: (k, v) :: rest
    else (k, v) :: insert key value rest

/-- Puts a member after the others, or at the place of one of the same key. -/
def put (key : Text) (value : α) : List (Text × α) → List (Text × α)
  | [] => [(key, value)]
  | (k, v) :: rest => if k == key then (k, value) :: rest else (k, v) :: put key value rest

/-- The members in ascending order of keys; of two with one key the later stays. -/
def ofList (members : List (Text × α)) : List (Text × α) :=
  members.foldl (fun sorted member => insert member.1 member.2 sorted) []

/-- The value at a key. -/
def find? (key : Text) (members : List (Text × α)) : Option α :=
  (members.find? fun member => member.1 == key).map (·.2)

end Members

namespace Json

/-- The value of a natural number. -/
def ofNat (n : Nat) : Json :=
  .number (.int n)

/-- A string, or null. -/
def ofText? : Option Text → Json
  | some t => .string t
  | none => .null

/-- A natural number, or null. -/
def ofNat? : Option Nat → Json
  | some n => ofNat n
  | none => .null

/-- An object from members in any order. -/
def ofMembers (members : List (Text × Json)) : Json :=
  .object (Members.ofList members)

/-- The member of an object. -/
def get? (key : Text) : Json → Option Json
  | .object members => Members.find? key members
  | _ => none

/-- The item of an array. -/
def item? (index : Nat) : Json → Option Json
  | .array items => items[index]?
  | _ => none

/-- Whether a value is null. -/
def isNull : Json → Bool
  | .null => true
  | _ => false

end Json

end Playbill
