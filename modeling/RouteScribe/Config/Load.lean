import RouteScribe.Config.Validate
import RouteScribe.Json.Reader
import RouteScribe.Project.Tree
import RouteScribe.Text.Utf8

/-!
# Loading a config file

A config file is read, decoded as JSON and validated.  A file that is missing, is
no JSON or is no config is a problem that the user is told about.  Bytes that are
no text, integers with more digits than are converted, and a name with a null
character are faults that end the run.  So does a string with a surrogate on its own,
which is no text here.
-/

namespace RouteScribe.Config

open RouteScribe.Json RouteScribe.Project RouteScribe.Text

/-- A problem with a config file that the user is told about. -/
inductive LoadProblem where
  | unreadable (error : FileError)
  | notJson (report : String)
  | invalid (refusal : Refusal)
  deriving DecidableEq, Repr

/-- A fault of a config file that ends the run. -/
inductive LoadFault where
  | undecodable (error : Utf8.DecodeError)
  | tooManyDigits (count : Nat)
  | nullCharacter
  | loneSurrogate
  deriving DecidableEq, Repr

/-- Why a config file cannot be loaded. -/
inductive LoadError where
  | problem (problem : LoadProblem)
  | fault (fault : LoadFault)
  deriving DecidableEq, Repr

/-- The report of a problem with a config file, which is shown under the name that
it was given by. -/
def LoadProblem.message (name : String) : LoadProblem → String
  | .unreadable error =>
      "Error: Config file " ++ name ++ " was not found.\n  " ++ error.message ++
        "\nA docconfig.json file needs to be created with parameters such as where the api" ++
        "\ndocumentation should be created. If you've named the file something else, use" ++
        "\nthe --project option."
  | .notJson report =>
      "Error: Could not parse config file " ++ name ++ " as JSON.\n  " ++ report
  | .invalid refusal =>
      "Error: Config file " ++ name ++ " is invalid.\n  " ++ refusal.message ++
        "\nSee README.md for docconfig.json format."

def LoadFault.message : LoadFault → String
  | .undecodable error => error.message
  | .tooManyDigits count => tooManyDigitsMessage count
  | .nullCharacter => FileFault.nullCharacter.text
  | .loneSurrogate => loneSurrogateMessage

def ofText (text : List Char) : Except LoadError Config :=
  match Json.read text with
  | .ok value => (validate value).mapError fun refusal => .problem (.invalid refusal)
  | .error (.fault kind position) =>
      .error (.problem (.notJson ((ReadError.fault kind position).message text)))
  | .error (.tooManyDigits count) => .error (.fault (.tooManyDigits count))
  | .error .loneSurrogate => .error (.fault .loneSurrogate)

def ofBytes (content : List UInt8) : Except LoadError Config :=
  match Utf8.decode content with
  | .ok text => ofText (normalizeNewlines text)
  | .error error => .error (.fault (.undecodable error))

def load (disk : Disk) (path : Path) : Except LoadError Config :=
  match disk.read path with
  | .ok content => ofBytes content
  | .error .nullCharacter => .error (.fault .nullCharacter)
  | .error fault => .error (.problem (.unreadable ⟨fault, path⟩))

end RouteScribe.Config
