import Playbill.Toml.Scalar

/-!
# Tables of a TOML document

A table is written under a header, or by dotted keys, or because a header names a table below it, or
between braces.  It can be written only once, and these kinds do not mix.

* `TableKind`, `TomlNode`: the values of a document while it is read, members in the order of
  writing.
* `TomlNode.within?`: an edit at the end of a path.
* `TomlNode.openTable?`, `TomlNode.openItem?`, `TomlNode.define?`: headers and definitions.
* `TomlNode.close?`: the setting that stands for a node.
-/

namespace Playbill

/-- How a table came to be: it has a header, a header names a table below it, dotted keys wrote it,
or it stands between braces. -/
inductive TableKind
  | headed
  | implied
  | dotted
  | braced
  deriving DecidableEq

/-- A value, a table, or a list of tables the last of which is still written. -/
inductive TomlNode
  | scalar (value : Setting)
  | dateTime (text : Text)
  | list (items : List TomlNode)
  | table (kind : TableKind) (members : List (Text × TomlNode))
  | tables (earlier : List TomlNode) (last : List (Text × TomlNode))

namespace TomlNode

/-- The key that makes a table a date and time: when it is the first one, its text is the value, and
the other members count for nothing. -/
def dateTimeKey : Text :=
  "$__toml_private_datetime"

/-- The date and time that a text holds. -/
def heldDateTime? : TomlNode → Option Text
  | .scalar (.text t) => Toml.heldDateTime? t
  | _ => none

mutual

/-- The setting that stands for a node. -/
def close? : TomlNode → Option Setting
  | .scalar value => some value
  | .dateTime text => some (.text text)
  | .list items => (closeItems? items).map .list
  | .table _ members => closeTable? members
  | .tables earlier last => do
    let earlier ← closeItems? earlier
    let last ← closeTable? last
    return .list (earlier ++ [last])

/-- The setting that stands for a table. -/
def closeTable? : List (Text × TomlNode) → Option Setting
  | [] => some (.table [])
  | (key, node) :: rest =>
    if key == dateTimeKey then node.heldDateTime?.map .text
    else do
      let value ← close? node
      let members ← closeMembers? rest
      return .table (Members.ofList ((key, value) :: members))

/-- The settings that stand for the members of a table. -/
def closeMembers? : List (Text × TomlNode) → Option (List (Text × Setting))
  | [] => some []
  | (key, node) :: rest => do
    let value ← close? node
    let members ← closeMembers? rest
    return (key, value) :: members

/-- The settings that stand for the items of a list. -/
def closeItems? : List TomlNode → Option (List Setting)
  | [] => some []
  | node :: rest => do
    let item ← close? node
    let items ← closeItems? rest
    return item :: items

end

/-- Edits the table at the end of a path, making the tables on the way.  Dotted keys cannot enter a
table that has a header, and nothing enters one between braces. -/
def within? (byDots : Bool)
    (edit : TableKind → List (Text × TomlNode) → Option (List (Text × TomlNode))) :
    List Text → TableKind → List (Text × TomlNode) → Option (List (Text × TomlNode))
  | [], kind, members => edit kind members
  | key :: path, _, members =>
    match Members.find? key members with
    | none =>
      let kind := if byDots then TableKind.dotted else .implied
      (within? byDots edit path kind []).map fun inner =>
        Members.put key (.table kind inner) members
    | some (.table kind inner) =>
      if kind == .braced || (byDots && kind == .headed) then none
      else (within? byDots edit path kind inner).map fun inner =>
        Members.put key (.table kind inner) members
    | some (.tables earlier last) =>
      (within? byDots edit path .headed last).map fun last =>
        Members.put key (.tables earlier last) members
    | some _ => none

/-- Gives the table of a key a header; it must not have been written yet.  Its place is that of the
header. -/
def openTable? (key : Text) (members : List (Text × TomlNode)) :
    Option (List (Text × TomlNode)) :=
  match Members.find? key members with
  | none => some (members ++ [(key, .table .headed [])])
  | some (.table .implied inner) =>
    some (members.filter (fun member => member.1 != key) ++ [(key, .table .headed inner)])
  | some _ => none

/-- Adds a table to the list of tables of a key. -/
def openItem? (key : Text) (members : List (Text × TomlNode)) :
    Option (List (Text × TomlNode)) :=
  match Members.find? key members with
  | none => some (members ++ [(key, .tables [] [])])
  | some (.tables earlier last) =>
    some (Members.put key (.tables (earlier ++ [.table .headed last]) []) members)
  | some _ => none

/-- Defines a value under a dotted key, whose last part must be new in a table that dotted keys
wrote. -/
def define? (path : List Text) (key : Text) (value : TomlNode) (kind : TableKind)
    (members : List (Text × TomlNode)) : Option (List (Text × TomlNode)) :=
  let edit (kind : TableKind) (members : List (Text × TomlNode)) :=
    if (kind == .dotted) == path.isEmpty || (Members.find? key members).isSome then none
    else some (members ++ [(key, value)])
  within? true edit path kind members

end TomlNode

end Playbill
