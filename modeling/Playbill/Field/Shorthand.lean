import Playbill.Declaration.Basic

/-!
# Shorthand declarations

A field may be written as `selector @attribute`, as `selector` or as `@attribute`.

* `FieldParts.ofShorthand`: the selector and the attribute of a shorthand.
-/

namespace Playbill

/-- The text before and after the last `@` that stands at the start or after a blank; `before` is
the character before the text. -/
def splitAtMarker? (before : Option Char) : Text → Option (Text × Text)
  | [] => none
  | c :: rest =>
    match splitAtMarker? (some c) rest with
    | some (head, tail) => some (c :: head, tail)
    | none => if c == '@' && before.all isBlank then some ([], rest) else none

/-- A text, unless it is empty. -/
def nonempty? (t : Text) : Option Text :=
  if t.isEmpty then none else some t

/-- The selector and the attribute of a shorthand. -/
def FieldParts.ofShorthand (shorthand : Text) : FieldParts :=
  let shorthand := Text.trim shorthand
  match splitAtMarker? none shorthand with
  | some (selector, attrName) =>
    ⟨nonempty? (Text.trim selector), nonempty? (Text.trim attrName)⟩
  | none => ⟨nonempty? shorthand, none⟩

end Playbill
