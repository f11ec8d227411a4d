import Playbill.Text.Basic
import Playbill.Text.Numeric
import Playbill.Text.Quoted

/-!
# Log filters

A filter is a list of rules with commas between them.  A rule is a level, a target, or a target and
a span with the level after an equals sign: `info`, `selectors=warn`, `tabs[visit]=trace`.

* `LogLevel`: the levels, and `LogLevel.read?`.
* `FilterRule`: a rule; `FilterRule.read` reads one character by character.
* `readFilter`: a whole filter, or the `FilterFailure` of its first rule that is none.
-/

namespace Playbill

/-- How much is logged. -/
inductive LogLevel
  | off
  | error
  | warn
  | info
  | debug
  | trace
  deriving DecidableEq

namespace LogLevel

/-- The levels by name, from nothing to everything; the place in the list is the number of a level.
-/
def named : List (Text × LogLevel) :=
  [("off", .off), ("error", .error), ("warn", .warn), ("info", .info), ("debug", .debug),
    ("trace", .trace)]

/-- Reads a level: its number, or its name in letters of any case. -/
def read? (t : Text) : Option LogLevel :=
  match (Text.unsigned? t).bind fun n => named[n]? with
  | some (_, level) => some level
  | none => (named.find? fun (name, _) => Text.eqIgnoringAsciiCase name t).map (·.2)

end LogLevel

/-- Why a text is no filter: a level has no such name, a character stands where it may not, or a
part of a rule would begin or end inside a character. -/
inductive FilterFailure
  | unknownLevel
  | malformed
  | torn
  deriving DecidableEq

/-- The wording of a failure. -/
def FilterFailure.message : FilterFailure → Text
  | .unknownLevel =>
    "error parsing level filter: expected one of ".toList ++
      (LogLevel.named.flatMap fun (name, _) => Quoted.encode name ++ ", ".toList) ++
      "or a number 0-5".toList
  | .malformed => "invalid filter directive".toList
  | .torn => "a character is cut in two".toList

/-- The events a rule speaks of, and the level up to which they are logged. -/
structure FilterRule where
  target : Option Text := none
  span : Option Text := none
  fields : List Text := []
  level : LogLevel := .trace
  deriving DecidableEq

namespace FilterRule

/-- What is being read: the numbers are positions at which it started. -/
inductive Phase
  | start
  | word (start : Nat)
  | span (start : Nat)
  | field (start : Nat)
  | afterFields
  | afterSpan
  | level (start : Nat)
  deriving DecidableEq

/-- The characters of a text, each with its position: the number of bytes between it and the
characters before it. -/
def positioned : Nat → Text → List (Char × Nat)
  | _, [] => []
  | position, c :: rest => (c, position) :: positioned (position + c.utf8Size) rest

/-- The characters after a position. -/
def after (t : Text) (start : Nat) : Except FilterFailure Text :=
  match Text.takeBytes? start t with
  | some (_, rest) => .ok rest
  | none => .error .torn

/-- The characters between two positions. -/
def slice (t : Text) (start stop : Nat) : Except FilterFailure Text := do
  match Text.takeBytes? (stop - start) (← after t start) with
  | some (part, _) => .ok part
  | none => .error .torn

/-- A text, or nothing when it is empty. -/
def nonEmpty? (t : Text) : Option Text :=
  if t.isEmpty then none else some t

/-- Whether a level or a target can start with a character. -/
def startsWord (c : Char) : Bool :=
  c == '-' || c == ':' || c == '_' || isAlphanumeric c

/-- Goes past the character `c` at a position of the text `t`. -/
def step (t : Text) : Phase × FilterRule → Char × Nat → Except FilterFailure (Phase × FilterRule)
  | (.start, rule), (c, i) =>
    if c == '[' then .ok (.span (i + 1), rule)
    else if startsWord c then .ok (.word i, rule)
    else .error .malformed
  | (.word start, rule), (c, i) =>
    if c == '=' then do
      return (.level (i + 1), { rule with target := some (← slice t start i) })
    else if c == '[' then do
      return (.span (i + 1), { rule with target := some (← slice t start i) })
    else .ok (.word start, rule)
  | (.span start, rule), (c, i) =>
    if c == ']' then do
      return (.afterSpan, { rule with span := some (← slice t start i) })
    else if c.toNat == 0x7B then do
      return (.field (i + 1), { rule with span := nonEmpty? (← slice t start i) })
    else .ok (.span start, rule)
  | (.field start, rule), (c, i) =>
    if c.toNat == 0x7D then do
      let field ← slice t start i
      if field.isEmpty then .error .malformed
      else return (.afterFields, { rule with fields := rule.fields ++ [field] })
    else .ok (.field start, rule)
  | (.afterFields, rule), (c, _) =>
    if c == ']' then .ok (.afterSpan, rule) else .error .malformed
  | (.afterSpan, rule), (c, i) =>
    if c == '=' then .ok (.level (i + 1), rule) else .error .malformed
  | (.level start, rule), _ => .ok (.level start, rule)

/-- Ends a rule: a word alone is a level or else a target, and a level that is left out means
everything. -/
def finish (t : Text) : Phase × FilterRule → Except FilterFailure FilterRule
  | (.word start, rule) => do
    let word ← after t start
    match LogLevel.read? word with
    | some level => return { rule with level }
    | none => return { rule with target := nonEmpty? word }
  | (.level start, rule) => do
    let word ← after t start
    if word.isEmpty then return rule
    else
      match LogLevel.read? word with
      | some level => return { rule with level }
      | none => .error .unknownLevel
  | (.afterSpan, rule) => .ok rule
  | _ => .error .malformed

/-- Reads a rule.  Positions count from its first character that is not blank, but what lies between
them is taken from the text as it is written. -/
def read (t : Text) : Except FilterFailure FilterRule := do
  finish t (← (positioned 0 (Text.trim t)).foldlM (step t) (.start, {}))

end FilterRule

/-- Reads a filter; nothing stands for no rule. -/
def readFilter (t : Text) : Except FilterFailure (List FilterRule) :=
  ((Text.pieces ',' t).filter (!·.isEmpty)).mapM FilterRule.read

end Playbill
