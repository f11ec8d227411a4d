import Playbill.Context.Basic

/-!
# Looking up paths

A path such as `movie.rooms[0].name` leads from a context to a value.

* `PathStep`: a key or an index; `PathStep.ofPath`: the steps of a written path.
* `Json.follow?`: the value that steps lead to.
* `Context.find?`: the value of a path in a context.
-/

namespace Playbill

/-- A step from a value into one of its parts. -/
inductive PathStep
  | key (name : Text)
  | index (position : Nat)
  deriving DecidableEq

/-- The step written between brackets: an index if it is a number, else a key without its quotes. -/
def PathStep.ofBracket (inner : Text) : PathStep :=
  match Text.unsigned? inner with
  | some position => .index position
  | none => .key (Text.trimBy (fun c => c == '"' || c == '\'') inner)

/-- The steps of bracket groups that follow one another; reading ends at the first character that
does not continue them. -/
def PathStep.ofBrackets (t : Text) : List PathStep :=
  match t with
  | '[' :: rest =>
    match _h : rest.dropWhile (· != ']') with
    | _ :: after => ofBracket (rest.takeWhile (· != ']')) :: ofBrackets after
    | [] => []
  | _ => []
termination_by t.length
decreasing_by
  have hle := (List.dropWhile_suffix (p := (· != ']')) (l := rest)).length_le
  rw [_h] at hle
  simp only [List.length_cons] at hle ⊢
  omega

/-- The steps of one stretch between dots: a key and then bracket groups. -/
def PathStep.ofStretch (t : Text) : List PathStep :=
  let key := t.takeWhile (· != '[')
  (if key.isEmpty then [] else [.key key]) ++ ofBrackets (t.dropWhile (· != '['))

/-- The steps of a path; dots separate them, and nothing between two dots is no step. -/
def PathStep.ofPath (path : Text) : List PathStep :=
  (Text.pieces '.' path).flatMap ofStretch

/-- The part of a value that a step leads to.  A key that is a number also leads into an array. -/
def Json.step? (value : Json) : PathStep → Option Json
  | .key name =>
    match value with
    | .object _ => value.get? name
    | .array _ => (Text.unsigned? name).bind fun position => value.item? position
    | _ => none
  | .index position => value.item? position

/-- The value that steps lead to. -/
def Json.follow? (value : Json) : List PathStep → Option Json
  | [] => some value
  | step :: steps => (value.step? step).bind fun part => part.follow? steps

/-- What a path stands for: a JSON value or the date of the context. -/
inductive Found
  | json (value : Json)
  | date (value : DateTime)

namespace Context

/-- The value that steps lead to in a context.  `date`, `indexes` and `movie` are the context's own;
every other name is a variable. -/
def findSteps? (c : Context) : List PathStep → Option Found
  | .key name :: rest =>
    if name == ("date" : Text) && rest.isEmpty then c.date.map .date
    else if name == ("indexes" : Text) then
      match rest with
      | [] => some (.json (.object (c.indexes.map fun (key, value) => (key, .ofNat value))))
      | [.key dimension] => (c.index? dimension).map fun value => .json (.ofNat value)
      | _ => none
    else if name == ("movie" : Text) then
      (c.movie.bind fun movie => movie.follow? rest).map .json
    else
      ((c.var? name).bind fun value => value.follow? rest).map .json
  | _ => none

/-- The value of a path in a context. -/
def find? (c : Context) (path : Text) : Option Found :=
  c.findSteps? (PathStep.ofPath path)

end Context

end Playbill
