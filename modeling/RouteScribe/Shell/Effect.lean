import RouteScribe.Project.Tree
import RouteScribe.Text.Utf8

/-!
# Effects of commands

A command changes the file tree, writes to its two output streams and ends with a
status, which is zero if all went well.
-/

namespace RouteScribe.Shell

open RouteScribe.Project RouteScribe.Text

inductive Stream where
  | output
  | error
  deriving DecidableEq, Repr

/-- What a command leaves behind.  The pieces that it writes are in order. -/
structure Effect where
  disk : Disk
  written : List (Stream × List UInt8) := []
  status : Nat := 0

namespace Effect

def done (disk : Disk) (status : Nat) : Effect :=
  { disk, status }

def output (disk : Disk) (content : List UInt8) : Effect :=
  { disk, written := [(.output, content)] }

def say (disk : Disk) (text : String) : Effect :=
  output disk (Utf8.encode text.toList)

/-- Writes a line to the error stream and ends with a status. -/
def complain (disk : Disk) (status : Nat) (line : String) : Effect :=
  { disk, written := [(.error, Utf8.encode (line ++ "\n").toList)], status }

/-- One effect after another; the greater status counts. -/
def andThen (first : Effect) (next : Disk → Effect) : Effect :=
  let second := next first.disk
  { disk := second.disk, written := first.written ++ second.written,
    status := max first.status second.status }

/-- The effects of doing something with each of several texts. -/
def forEach (disk : Disk) (texts : List String) (act : Disk → String → Effect) : Effect :=
  texts.foldl (fun effect text => effect.andThen (act · text)) (.done disk 0)

end Effect

end RouteScribe.Shell
