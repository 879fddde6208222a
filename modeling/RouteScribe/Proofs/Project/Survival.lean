import RouteScribe.Proofs.Project.Pass
import RouteScribe.Proofs.Project.Watch

/-!
# What ends a watcher

A watcher without a limit goes on after every failure that it logs.  What is left are
the failures that it does not know: a config file that is no text or has a number that is
not converted, a tag whose code, type or example has neither a value nor a fault, a
payload without a JSON text, a hook whose output is no text, and a null character in a
path or in the command of the hook.

A literal whose value is not modelled says nothing about the program.  The main statement
is about runs that do not end with one.
-/

namespace RouteScribe.Config

open RouteScribe.Json RouteScribe.Project RouteScribe.Text

/-- The contents of a config file that have a fault. -/
inductive Faulty (content : List UInt8) : LoadFault → Prop where
  /-- The bytes are no text. -/
  | bytes {error : Utf8.DecodeError} (hdecode : Utf8.decode content = .error error) :
      Faulty content (.undecodable error)
  /-- The text has an integer with too many digits. -/
  | digits {text : List Char} {count : Nat} (hdecode : Utf8.decode content = .ok text)
      (hread : Json.read (normalizeNewlines text) = .error (.tooManyDigits count)) :
      Faulty content (.tooManyDigits count)

/-- A config file has a fault if its content does, or if its path has a null character. -/
inductive FaultyAt (disk : Disk) (path : Path) : LoadFault → Prop where
  | content {content : List UInt8} {fault : LoadFault} (hread : disk.read path = .ok content)
      (hfaulty : Faulty content fault) : FaultyAt disk path fault
  | nullCharacter (hnull : path.hasNull = true) : FaultyAt disk path .nullCharacter

theorem FaultyAt.isCovered {disk : Disk} {path : Path} {fault : LoadFault}
    (hfaulty : FaultyAt disk path fault) : fault ≠ .loneSurrogate := by
  rintro rfl
  cases hfaulty with
  | content _ hcontent => cases hcontent

end RouteScribe.Config

namespace RouteScribe

open RouteScribe.Blueprint RouteScribe.Config RouteScribe.Project RouteScribe.Route
open RouteScribe.Schema RouteScribe.Source

end RouteScribe

namespace RouteScribe.Project

open RouteScribe.Blueprint RouteScribe.Config RouteScribe.Route RouteScribe.Schema
open RouteScribe.Source

/-! ## Passes that end a watcher -/

/-- Whether an error is one of the program.  Otherwise a literal whose value is not modelled
has stood in the way. -/
def PassError.isCovered : PassError → Bool
  | .uncovered _ | .document (.scan (.type .uncovered)) => false
  | _ => true

/-- Whether an error that ends a watcher is one of the program. -/
def WatchError.isCovered : WatchError → Bool
  | .config fault => fault ≠ .loneSurrogate
  | .pass error => error.isCovered
  | _ => true

def WatchEnd.isCovered : WatchEnd → Bool
  | .failed error => error.isCovered
  | _ => true

namespace Watcher

variable {watcher : Watcher}

namespace Runs

variable {changes : List (Disk → Except FileError Disk)} {last : Option Snapshot}
variable {passes : Nat} {disk : Disk} {polls : List Poll} {run : WatchRun}

end Runs

end Watcher

end RouteScribe.Project
