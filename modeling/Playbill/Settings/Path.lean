import Playbill.Settings.Value

/-!
# Paths of settings

A top-level key of a file and the name of an environment variable may reach into tables and lists:
`logging.level`, `date.date_format[0]`.

* `SettingStep.steps?`: reads what comes after the first key.
* `SettingStep.path`: the path of a key; a key that is no path stands for itself.
-/

namespace Playbill.SettingStep

/-- The characters of a key on a path. -/
def isKeyChar (c : Char) : Bool :=
  ('a' ≤ c && c ≤ 'z') || ('A' ≤ c && c ≤ 'Z') || isAsciiDigit c || c == ' ' || c == '_' || c == '-'

/-- Reads a position between brackets, which may have blanks around it. -/
def position? (t : Text) : Option Int :=
  let t := Text.trimBy (fun c => c == ' ' || c == '\t') t
  if t.head? == some '+' then none else Text.signed? t

/-- Reads the steps after the first key: a point and a key, or a position between brackets. -/
def steps? : Nat → Text → Option (List SettingStep)
  | _, [] => some []
  | fuel + 1, '.' :: rest =>
    let key := rest.takeWhile isKeyChar
    if key.isEmpty then none
    else (steps? fuel (rest.dropWhile isKeyChar)).map (.member key :: ·)
  | fuel + 1, '[' :: rest =>
    match rest.dropWhile (· != ']') with
    | ']' :: after => do
      let position ← position? (rest.takeWhile (· != ']'))
      return .item position :: (← steps? fuel after)
    | _ => none
  | _, _ => none

/-- The path of a key. -/
def path (key : Text) : List SettingStep :=
  let first := key.takeWhile isKeyChar
  if first.isEmpty then [.member key]
  else
    match steps? key.length (key.dropWhile isKeyChar) with
    | some steps => .member first :: steps
    | none => [.member key]

end Playbill.SettingStep
