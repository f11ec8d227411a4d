import Playbill.Log.Settings
import Playbill.Log.Filter

/-!
# Starting a log

* `LogFailure`: why a log does not start, and `LogFailure.message`.
* `refusedDirectory?`: the directories that cannot be made.
* `LogSettings.start`: the checks in the order in which they are made.
-/

namespace Playbill

/-- Why a log does not start. -/
inductive LogFailure
  | invalidFilter (directive : Text) (reason : FilterFailure)
  | noDirectory (directory : Text) (reason : Text)
  | noOutput
  | alreadyStarted
  deriving DecidableEq

/-- The wording of a failure. -/
def LogFailure.message : LogFailure → Text
  | .invalidFilter directive reason =>
    "Invalid log filter '".toList ++ directive ++ "': ".toList ++ reason.message
  | .noDirectory directory reason =>
    "Failed to create log directory ".toList ++ directory ++ ": ".toList ++ reason
  | .noOutput => "No logging output configured".toList
  | .alreadyStarted =>
    "Failed to install tracing subscriber: ".toList ++
      "a global default trace dispatcher has already been set".toList

/-- The names on a path that starts at the root. -/
def absoluteNames : Text → List Text
  | '/' :: rest => (Text.pieces '/' rest).filter (!·.isEmpty)
  | _ => []

/-- Why a directory cannot be made: the null device is a file, so that it is no directory and there
is none below it.  Every other directory can be made. -/
def refusedDirectory? (directory : Text) : Option Text :=
  match Text.joinWith ['/'] ((absoluteNames directory).take 2) == "dev/null".toList,
    (absoluteNames directory).drop 2 with
  | true, [] => some "File exists (os error 17)"
  | true, _ :: _ => some "Not a directory (os error 20)"
  | false, _ => none

/-- Starts a log: the filter has to be well formed, the directory of a log file has to be there, the
log has to go somewhere, and only one log can be started. -/
def LogSettings.start (c : LogSettings) (alreadyStarted : Bool) : Except LogFailure Unit :=
  match readFilter c.directive with
  | .error reason => .error (.invalidFilter c.directive reason)
  | .ok _ =>
    match if c.fileOutput then refusedDirectory? c.logDirectory else none with
    | some reason => .error (.noDirectory c.logDirectory reason)
    | none =>
      if !c.consoleOutput && !c.fileOutput then .error .noOutput
      else if alreadyStarted then .error .alreadyStarted
      else .ok ()

end Playbill
