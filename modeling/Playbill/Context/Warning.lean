import Playbill.Text.Basic

/-!
# Warnings

A warning is recorded in the scope of a context and in the scopes of all its ancestors.  Each scope
keeps only the first warning of each code.

* `Warning`: what was noticed, and where.
* `WarningLog`: the warnings of every scope, by the number of the scope.
* `WarningLog.record`: recording along a chain of scopes.
* `Recording`: a computation that may record warnings.
-/

namespace Playbill

/-- Something noticed during extraction; the location is the call stack at that time. -/
structure Warning where
  code : Text
  message : Text
  location : Text
  deriving DecidableEq

/-- Adds a warning unless one of its code is there already. -/
def addFirst (w : Warning) (ws : List Warning) : List Warning :=
  if ws.any fun v => v.code == w.code then ws else ws ++ [w]

/-- The warnings of every scope; scopes are numbered in the order of their making. -/
abbrev WarningLog := List (List Warning)

namespace WarningLog

/-- The warnings of a scope. -/
def of (log : WarningLog) (scope : Nat) : List Warning :=
  log[scope]?.getD []

/-- Records a warning in each scope of a chain. -/
def record (log : WarningLog) (scopes : List Nat) (w : Warning) : WarningLog :=
  scopes.foldl (fun log scope => log.modify scope (addFirst w)) log

end WarningLog

/-- A computation that may open scopes and record warnings. -/
abbrev Recording := StateM WarningLog

/-- Opens a scope without warnings and gives its number. -/
def Recording.openScope : Recording Nat := fun log =>
  (log.length, log ++ [[]])

end Playbill
