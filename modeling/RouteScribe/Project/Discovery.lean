import RouteScribe.Project.Tree
import RouteScribe.Text.Search

/-!
# Discovering sources

A root that is a directory stands for everything below it whose name ends in
`.py`, in the order of paths; any other root stands for itself, whether it is
there or not.  Paths through a directory that holds caches or history, and paths
that contain an excluded text, are left out, and no path is listed twice.
-/

namespace RouteScribe.Project

open RouteScribe.Text

/-- The names of directories that hold no sources. -/
def skippedNames : List String :=
  [".git", "__pycache__", ".mypy_cache", ".pytest_cache", ".tox"]

/-- Whether a path contains one of the texts that leave out a file. -/
def isExcluded (exclude : List String) (path : String) : Bool :=
  exclude.any fun fragment => occursIn fragment.toList path.toList

def isSourceName (path : Path) : Bool :=
  ".py".toList.isSuffixOf path.name.toList

/-- Whether a path leads through a skipped directory. -/
def isSkipped (path : Path) : Bool :=
  path.allParts.any skippedNames.contains

/-- The sources that a root stands for. -/
def candidates (disk : Disk) (root : Path) : List Path :=
  match disk.look root with
  | .ok (.directory stamp entries) =>
      (((Node.directory stamp entries).descendants root).filter isSourceName).mergeSort Path.le
  | _ => [root]

/-- Appends the members of a list that are not there yet. -/
def appendNew (found : List Path) : List Path → List Path
  | [] => found
  | path :: paths => appendNew (if found.contains path then found else found ++ [path]) paths

def discover (disk : Disk) (exclude : List String) (roots : List Path) : List Path :=
  appendNew [] ((roots.flatMap (candidates disk)).filter fun path =>
    !isSkipped path && !isExcluded exclude path.text)

end RouteScribe.Project
