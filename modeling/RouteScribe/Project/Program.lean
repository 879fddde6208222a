import RouteScribe.Project.Tree
import RouteScribe.Source.Coverage
import RouteScribe.Source.File

/-!
# Loading a program

A program is the list of its source files in the order in which they are given.
It is loaded as a whole or not at all.  A source with a literal that has no value here
is given up on, which is no error of the program.
-/

namespace RouteScribe.Project

open RouteScribe.Source RouteScribe.Text

/-- Why a source cannot be used. -/
inductive SourceFault where
  | unreadable (error : FileError)
  | undecodable (error : Utf8.DecodeError)
  | malformed
  deriving DecidableEq, Repr

def SourceFault.message : SourceFault → String
  | .unreadable error => error.message
  | .undecodable error => error.message
  | .malformed => "<syntax error>"

/-- Why a program cannot be loaded. -/
inductive ProgramError where
  | noSources
  | badSource (path : Path) (fault : SourceFault)
  deriving DecidableEq, Repr

def ProgramError.message : ProgramError → String
  | .noSources => "Program has no source files to document"
  | .badSource path fault =>
      "Program has errors: cannot parse " ++ path.text ++ ": " ++ fault.message

/-- The report of an error of the program.  A path that cannot be handed to the system is
an error of another kind. -/
def ProgramError.report? : ProgramError → Option String
  | .noSources => some ProgramError.noSources.message
  | .badSource path (.unreadable error) =>
      error.report?.map fun _ => (ProgramError.badSource path (.unreadable error)).message
  | .badSource path fault => some (ProgramError.badSource path fault).message

inductive LoadFailure where
  | program (error : ProgramError)
  | uncovered (path : Path)
  deriving DecidableEq, Repr

def loadSource (disk : Disk) (path : Path) : Except LoadFailure SourceFile :=
  let refuse (fault : SourceFault) : Except LoadFailure SourceFile :=
    .error (.program (.badSource path fault))
  match disk.read path with
  | .error fault => refuse (.unreadable ⟨fault, path⟩)
  | .ok content =>
      match Utf8.decode content with
      | .error error => refuse (.undecodable error)
      | .ok chars =>
          let text := String.ofList (normalizeNewlines chars)
          match SourceFile.read? path text with
          | some file => .ok file
          | none => if isCovered text then refuse .malformed else .error (.uncovered path)

/-- Loads sources in order, up to the first that cannot be used. -/
def loadSources (disk : Disk) : List Path → Except LoadFailure (List SourceFile)
  | [] => .ok []
  | path :: paths => do
      let file ← loadSource disk path
      return file :: (← loadSources disk paths)

def loadProgram (disk : Disk) (paths : List Path) : Except LoadFailure (List SourceFile) :=
  if paths.isEmpty then .error (.program .noSources) else loadSources disk paths

end RouteScribe.Project
