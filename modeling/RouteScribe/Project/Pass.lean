import RouteScribe.Documentation
import RouteScribe.Project.Hook
import RouteScribe.Project.Program

/-!
# Documentation passes

A pass discovers and loads the sources of a program, writes its document and runs
the hook.  Nothing is written before all sources are loaded, and the hook runs
only after a whole document has been written.  An error on the way leaves the part
of the document that comes before it.
-/

namespace RouteScribe.Project

open RouteScribe.Config RouteScribe.Text

structure PassResult where
  output : Path
  files : Nat
  routers : Nat
  /-- The exit code of the hook, if one ran. -/
  hook : Option Int
  deriving DecidableEq, Repr

/-- Why a pass ended early. -/
inductive PassError where
  | program (error : ProgramError)
  /-- A source has a literal without a value. -/
  | uncovered (path : Path)
  | file (error : FileError)
  | document (error : DocumentError)
  | hook (error : HookError)

/-- Why a pass ended before it has written anything. -/
def PassError.ofLoad : LoadFailure → PassError
  | .program error => .program error
  | .uncovered path => .uncovered path

/-- The report of an error that comes from the program or its comments. -/
def PassError.fatal? : PassError → Option String
  | .program error => error.report?
  | .document (.scan (.fatal error)) => some error.message
  | _ => none

def PassError.message? : PassError → Option String
  | .program error => some error.message
  | .uncovered _ => none
  | .file error => some error.message
  | .document error => error.message?
  | .hook error => some error.message

/-- A pass with everything it reported and the file tree that it leaves. -/
structure PassRun where
  disk : Disk
  events : List Event := []
  /-- The lines of the loaded files by path. -/
  lines : Table (List String) := []
  result : Except PassError PassResult

/-- The log of a pass; diagnostics are shown with the lines they point at. -/
def PassRun.log (run : PassRun) : List LogRecord :=
  run.events.map (Event.toRecord run.lines)

def passSummary (routers files : Nat) (output : Path) : LogRecord :=
  ⟨.info, "Wrote " ++ toString routers ++ " routers from " ++ toString files ++ " files to " ++
    output.text⟩

/-- The end of a pass whose document has been written. -/
def finishPass (shell : SystemShell) (config : Config) (disk : Disk) (events : List Event)
    (lines : Table (List String)) (result : PassResult) : PassRun :=
  match config.afterHook.filter (· ≠ "") with
  | none => { disk, events, lines, result := .ok result }
  | some command =>
      let hook := runHook shell disk command
      { disk := hook.disk, events := events ++ hook.log.map .record, lines
        result := match hook.code with
          | .ok code => .ok { result with hook := some code }
          | .error error => .error (.hook error) }

def writeDocument (shell : SystemShell) (config : Config) (files : List Source.SourceFile)
    (disk : Disk) : PassRun :=
  let output := Path.ofString config.output
  let documented := documentProgram config files
  match disk.write output (Utf8.encode documented.text.toList) with
  | .error fault => { disk, result := .error (.file ⟨fault, output⟩) }
  | .ok disk =>
      let lines := linesByPath files
      match documented.outcome with
      | .error error =>
          { disk, events := documented.events, lines, result := .error (.document error) }
      | .ok routers =>
          let summary := Event.record (passSummary routers files.length output)
          finishPass shell config disk (documented.events ++ [summary]) lines
            { output, files := files.length, routers, hook := none }

def runPass (shell : SystemShell) (config : Config) (roots : List Path) (disk : Disk) :
    PassRun :=
  match loadProgram disk (discover disk config.exclude roots) with
  | .error failure => { disk, result := .error (.ofLoad failure) }
  | .ok files =>
      match disk.ensureDirectory (Path.ofString config.output).parent with
      | (disk, .error error) => { disk, result := .error (.file error) }
      | (disk, .ok ()) => writeDocument shell config files disk

end RouteScribe.Project
