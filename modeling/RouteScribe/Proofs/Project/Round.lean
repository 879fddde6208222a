import Mathlib.Tactic
import RouteScribe.Project.Watch
import RouteScribe.Proofs.Table

/-!
# One round of a watcher

A round is told by its outcome: the config has a fault, nothing has changed since the last
pass, or a pass is started.  Two snapshots are compared as maps from paths to stamps.
-/

namespace RouteScribe.Project

open RouteScribe.Config

/-! ## Snapshots -/

/-- The stamp of the last file with a path among files. -/
def stampOf (disk : Disk) (paths : List Path) (text : String) : Option Int :=
  (paths.filterMap fun path => if path.text = text then disk.stamp? path else none).getLast?

namespace Watcher

variable (watcher : Watcher)

variable {watcher} {last : Option Snapshot} {disk : Disk} {round : Round}

namespace Rounds

end Rounds

end Watcher

namespace Watcher.Rounds

variable {watcher : Watcher} {last : Option Snapshot} {disk : Disk} {round : Round}

end Watcher.Rounds

end RouteScribe.Project
