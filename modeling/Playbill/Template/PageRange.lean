import Playbill.Cap
import Playbill.Template.Basic
import Playbill.Text.WordChar

/-!
# Page ranges

A template may name the pages it stands for: `:page(1,5):` or `:page([a,b]):`.

* `PageRange`: the two forms; `PageRange.leading?` and `PageRange.first?` find them in a text.
* `PageRange.pages?`: the pages of a range.
* `Template.pages?`, `Template.onEachPage`: the pages of a template, and its resolution for each.
-/

namespace Playbill

/-- The most pages of one range. -/
def pageLimit : Nat := 1000

/-- A range as it is written: two numerals, or a list between brackets. -/
inductive PageRange
  | span (first last : Text)
  | list (body : Text)
  deriving DecidableEq

namespace PageRange

/-- Two numerals with a comma between them and any blanks around them, and the text after them. -/
def leadingSpan? (t : Text) : Option (PageRange × Text) :=
  let t := Text.trimStart t
  let first := t.takeWhile isWordDigit
  match Text.trimStart (t.dropWhile isWordDigit) with
  | ',' :: t =>
    let t := Text.trimStart t
    let last := t.takeWhile isWordDigit
    if first.isEmpty || last.isEmpty then none
    else some (.span first last, Text.trimStart (t.dropWhile isWordDigit))
  | _ => none

/-- A list between brackets, and the text after it. -/
def leadingList? : Text → Option (PageRange × Text)
  | '[' :: rest =>
    match rest.dropWhile (· != ']') with
    | _ :: after => some (.list (rest.takeWhile (· != ']')), after)
    | [] => none
  | _ => none

/-- The range that starts a text, and the text after it. -/
def leading? (t : Text) : Option (PageRange × Text) :=
  (Text.dropLeading? ":page(" t).bind fun inner =>
    let closed : PageRange × Text → Option (PageRange × Text) := fun (range, rest) =>
      (Text.dropLeading? "):" rest).map fun after => (range, after)
    ((leadingSpan? inner).bind closed).orElse fun _ => (leadingList? inner).bind closed

/-- The first range in a text: the text before it, the range, and the text after it. -/
def first? : Text → Option (Text × PageRange × Text)
  | [] => none
  | c :: rest =>
    match leading? (c :: rest) with
    | some (range, after) => some ([], range, after)
    | none => (first? rest).map fun (before, found) => (c :: before, found)

/-- The first so many pages of a range.  Numerals have to be ASCII digits and fit 64 bits. -/
def pages? (limit : Nat) : PageRange → Option (List Text)
  | .span first last => do
    let first ← Text.unsigned? first
    let last ← Text.unsigned? last
    return (List.range (min limit (last + 1 - first))).map fun i => Text.ofNat (first + i)
  | .list body => some (((Text.pieces ',' body).map Text.trim).take limit)

end PageRange

namespace Template

/-- The pages of the first range in a template, no more than the cap allows. -/
def pages? (t : Text) (cap : Cap) : Option (List Text) :=
  (PageRange.first? t).bind fun (_, range, _) =>
    range.pages? ((cap.clamp (some pageLimit)).getD pageLimit)

/-- One page of a template: resolved on a branch where the variable `page` is the page. -/
def onPage (c : Context) (t page : Text) : Recording Text := do
  let branch ← c.branch
  return resolve (branch.withVar "page" (.string page)) t

/-- A template resolved for each of its pages. -/
def onEachPage (c : Context) (t : Text) (cap : Cap) : Recording (Option (List Text)) :=
  match pages? t cap with
  | some pages => do return some (← pages.mapM (onPage c t))
  | none => return none

end Template

end Playbill
