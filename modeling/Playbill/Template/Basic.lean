import Playbill.Context.Path
import Playbill.DatePattern.Printer
import Playbill.Json.Printer

/-!
# Templates

A template is a text with placeholders `:path:` or `:path(arguments):`.  Each is looked up in a
context once; what does not resolve stays as it is.

* `Placeholder`: a placeholder and its written form.
* `Placeholder.leading?`: the placeholder that starts a text.
* `Template.segments`: a text cut into placeholders and the characters between them.
* `Template.resolve`, `Template.resolveJson`: resolution in texts and in JSON values.
-/

namespace Playbill

/-- A placeholder: a path and arguments, which play no part in the look-up. -/
structure Placeholder where
  path : Text
  arguments : Option Text
  deriving DecidableEq

namespace Placeholder

/-- The characters a path may start with. -/
def isPathStart (c : Char) : Bool :=
  ('A' ≤ c && c ≤ 'Z') || ('a' ≤ c && c ≤ 'z') || c == '_' || c == '$'

/-- The characters a path is made of. -/
def isPathChar (c : Char) : Bool :=
  isPathStart c || isAsciiDigit c || c == '.' || c == '[' || c == ']'

/-- The characters arguments are made of. -/
def isArgumentChar (c : Char) : Bool :=
  c != '(' && c != ')' && c != ':'

/-- The written form. -/
def text (p : Placeholder) : Text :=
  [':'] ++ p.path ++
    (match p.arguments with
      | some arguments => ['('] ++ arguments ++ [')']
      | none => []) ++ [':']

/-- Arguments in parentheses at the start of a text, and the text after them. -/
def leadingArguments? : Text → Option (Text × Text)
  | '(' :: rest =>
    match rest.dropWhile isArgumentChar with
    | ')' :: after => some (rest.takeWhile isArgumentChar, after)
    | _ => none
  | _ => none

/-- The placeholder that starts a text, and the text after it. -/
def leading? : Text → Option (Placeholder × Text)
  | ':' :: rest =>
    let path := rest.takeWhile isPathChar
    if path.head?.any isPathStart then
      match rest.dropWhile isPathChar with
      | ':' :: after => some (⟨path, none⟩, after)
      | tail =>
        match leadingArguments? tail with
        | some (arguments, ':' :: after) => some (⟨path, some arguments⟩, after)
        | _ => none
    else none
  | _ => none

theorem length_leadingArguments? {t a rest : Text} (h : leadingArguments? t = some (a, rest)) :
    rest.length < t.length := by
  unfold leadingArguments? at h
  split at h
  · rename_i u
    split at h
    · rename_i v hd
      have hle := (List.dropWhile_suffix (p := isArgumentChar) (l := u)).length_le
      rw [hd] at hle
      simp only [Option.some.injEq, Prod.mk.injEq] at h
      obtain ⟨-, rfl⟩ := h
      simp only [List.length_cons] at hle ⊢
      omega
    · simp at h
  · simp at h

theorem length_leading? {t rest : Text} {p : Placeholder} (h : leading? t = some (p, rest)) :
    rest.length < t.length := by
  unfold leading? at h
  split at h
  · rename_i u
    have hle := (List.dropWhile_suffix (p := isPathChar) (l := u)).length_le
    simp only at h
    split at h
    · split at h
      · rename_i v hd
        rw [hd] at hle
        simp only [Option.some.injEq, Prod.mk.injEq] at h
        obtain ⟨-, rfl⟩ := h
        simp only [List.length_cons] at hle ⊢
        omega
      · split at h
        · rename_i a v ha
          have hlt := length_leadingArguments? ha
          simp only [Option.some.injEq, Prod.mk.injEq] at h
          obtain ⟨-, rfl⟩ := h
          simp only [List.length_cons] at hlt ⊢
          omega
        · simp at h
    · simp at h
  · simp at h

end Placeholder

namespace Template

/-- A piece of a template. -/
inductive Segment
  | literal (char : Char)
  | placeholder (value : Placeholder)
  deriving DecidableEq

/-- The pieces of a template from left to right, a placeholder wherever one starts. -/
def segments (t : Text) : List Segment :=
  match t with
  | [] => []
  | c :: rest =>
    match _h : Placeholder.leading? (c :: rest) with
    | some (p, after) => .placeholder p :: segments after
    | none => .literal c :: segments rest
termination_by t.length
decreasing_by
  · exact Placeholder.length_leading? _h
  · simp

/-- The text that a found value is replaced by; null is no value. -/
def render? (c : Context) : Found → Option Text
  | .date value =>
    some ((DatePattern.ofText c.dateFormat).render (Locale.ofCode c.dateLocale) value)
  | .json .null => none
  | .json (.string t) => some t
  | .json value => some value.compact

/-- A piece of a template in a context. -/
def resolveSegment (c : Context) : Segment → Text
  | .literal char => [char]
  | .placeholder p => ((c.find? p.path).bind (render? c)).getD p.text

/-- A template in a context. -/
def resolve (c : Context) (t : Text) : Text :=
  (segments t).flatMap (resolveSegment c)

mutual

/-- A JSON value with every string and key resolved. -/
def resolveJson (c : Context) : Json → Json
  | .string t => .string (resolve c t)
  | .array items => .array (resolveItems c items)
  | .object members => .ofMembers (resolveMembers c members)
  | value => value

/-- The items of an array with every string resolved. -/
def resolveItems (c : Context) : List Json → List Json
  | [] => []
  | item :: items => resolveJson c item :: resolveItems c items

/-- The members of an object with every key and string resolved, in the order of the keys before. -/
def resolveMembers (c : Context) : List (Text × Json) → List (Text × Json)
  | [] => []
  | (key, value) :: members => (resolve c key, resolveJson c value) :: resolveMembers c members

end

end Template

end Playbill
