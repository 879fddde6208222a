import RouteScribe.Diagnostic
import RouteScribe.Project.Tree
import RouteScribe.Text.Line
import RouteScribe.Text.Utf8

/-!
# Hooks

A hook is a command that runs after a document has been written.  It is handed to the
shell of the system, which is no part of the program: a shell can be any function from
a file tree and a command to what the command leaves behind.  A hook that fails is
reported with everything it wrote.
-/

namespace RouteScribe.Project

open RouteScribe.Text

/-- What a command leaves behind. -/
structure Completion where
  disk : Disk
  output : List UInt8
  error : List UInt8
  /-- The exit status, or the negated number of the signal that killed the command. -/
  code : Int

/-- The shell of the system. -/
abbrev SystemShell := Disk → String → Completion

/-- Why a hook has no exit code. -/
inductive HookError where
  /-- A command with a null character is not handed to the shell. -/
  | nullCharacter
  | undecodable (error : Utf8.DecodeError)

def HookError.message : HookError → String
  | .nullCharacter => FileFault.nullCharacter.text
  | .undecodable error => error.message

/-- What the program notes of a hook. -/
structure HookRun where
  disk : Disk
  log : List LogRecord
  code : Except HookError Int

def outputText (content : List UInt8) : Except HookError (List Char) :=
  ((Utf8.decode content).map normalizeNewlines).mapError .undecodable

def hookFailure (command : String) (code : Int) (output : List Char) : LogRecord :=
  ⟨.error, "After hook failed with exit code " ++ toString code ++ ": " ++ command ++ "\n" ++
    .ofList (trim output)⟩

def runHook (shell : SystemShell) (disk : Disk) (command : String) : HookRun :=
  let start : LogRecord := ⟨.info, "Running after hook: " ++ command⟩
  if command.toList.contains '\x00' then { disk, log := [start], code := .error .nullCharacter }
  else
    let left := shell disk command
    match outputText left.output, outputText left.error with
    | .ok output, .ok error =>
        let failed :=
          if left.code = 0 then [] else [hookFailure command left.code (output ++ error)]
        { disk := left.disk, log := start :: failed, code := .ok left.code }
    | .error error, _ | _, .error error =>
        { disk := left.disk, log := [start], code := .error error }

end RouteScribe.Project
