import RouteScribe.CommandLine.Run

/-!
# The program

The outer layer of the program.  It takes the file tree of the working directory as
a value, at its place below the root, does what the arguments ask for, and writes back
what has changed.
-/

namespace RouteScribe.Program

open RouteScribe.CommandLine RouteScribe.Logging RouteScribe.Project

/-- The variables of the environment that the program looks at. -/
def variableNames : List String :=
  ["BLUEPRINT_DOCS_CONFIG_PATH", "BLUEPRINT_DOCS_SOURCE_ROOT", "BLUEPRINT_DOCS_POLL_INTERVAL",
    "BLUEPRINT_DOCS_LOG_LEVEL", sharedLevelVariable] ++ configVariables

def readEnvironment : IO (Table String) := do
  let found ← variableNames.mapM fun name => do
    return (← IO.getEnv name).map (name, ·)
  return found.filterMap id

def stampOf (time : IO.FS.SystemTime) : Int :=
  time.sec * 1000000000 + time.nsec.toNat

/-- The node of an entry of a directory.  Directories that hold no sources are taken
to be empty. -/
partial def readNode (entry : IO.FS.DirEntry) : IO Node := do
  let about ← entry.path.metadata
  let stamp := stampOf about.modified
  match about.type with
  | .dir =>
      if skippedNames.contains entry.fileName then return .directory stamp []
      let entries ← (← entry.path.readDir).toList.mapM fun inner => do
        return (inner.fileName, ← readNode inner)
      return .directory stamp entries
  | _ => return .file stamp (← IO.FS.readBinFile entry.path).toList

/-- The file tree of the working directory, below the directories that lead to it. -/
def readDisk : IO Disk := do
  let place ← IO.currentDir
  let stamp := stampOf (← place.metadata).modified
  let entries ← (← place.readDir).toList.mapM fun entry => do
    return (entry.fileName, ← readNode entry)
  let here := (Path.ofString place.toString).parts
  let top := here.foldr (fun name inner => .directory stamp [(name, inner)])
    (.directory stamp entries)
  return { top, clock := stamp, here }

/-- Writes back what differs between two states of the file tree. -/
def saveChanges (before after : Disk) : IO Unit := do
  let root := Path.ofString "/"
  for path in (before.top.descendants root).reverse do
    if (after.look path).toOption.isNone then
      if before.isDirectory path then IO.FS.removeDir path.text else IO.FS.removeFile path.text
  for path in after.top.descendants root do
    match after.look path with
    | .ok (.directory ..) =>
        if !before.isDirectory path then IO.FS.createDirAll path.text
    | .ok (.file _ content) =>
        if (before.read path).toOption ≠ some content then
          IO.FS.writeBinFile path.text ⟨content.toArray⟩
    | .error _ => pure ()

def showLog (log : List LogRecord) : IO Unit := do
  for record in log do
    IO.println (record.level.name ++ " | " ++ record.message)
  (← IO.getStdout).flush

/-- Shows an error that leaves the program. -/
def showFailure (message : Option String) : IO Unit := do
  IO.eprintln (message.getD "The program cannot go on")

/-- Shows an outcome and gives the status of the program. -/
def finish (before : Disk) (outcome : Outcome) : IO UInt32 := do
  saveChanges before outcome.disk
  showLog outcome.log
  IO.print outcome.output
  IO.eprint outcome.error
  match outcome.ending with
  | .exit status => return (status % 256).toNat.toUInt32
  | .failed failure =>
      showFailure failure.message?
      return 1

def milliseconds : Number.Binary64 → UInt32
  | .finite false significand exponent =>
      (significand * 1000 * Nat.pow 2 exponent.toNat / Nat.pow 2 (-exponent).toNat).toUInt32
  | _ => 0

/-- Polls until the program is interrupted or an error leaves it. -/
partial def watch (watcher : Watcher) (pause : UInt32) (state : Logging.State)
    (last : Option Snapshot) : IO UInt32 := do
  let disk ← readDisk
  let round := watcher.round last disk
  saveChanges disk round.disk
  showLog (shown state round.log)
  match round.error with
  | some error =>
      showFailure error.message?
      return 1
  | none =>
      IO.sleep pause
      watch watcher pause state (some round.stamps)

def start (arguments : List String) : IO UInt32 := do
  let environment ← readEnvironment
  let disk ← readDisk
  match plan { environment, arguments } disk with
  | .finished outcome => finish disk outcome
  | .watching watcher interval state => watch watcher (milliseconds interval) state none

end RouteScribe.Program

def main (arguments : List String) : IO UInt32 :=
  RouteScribe.Program.start arguments
