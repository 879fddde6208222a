import RouteScribe.Number.Reader
import RouteScribe.Project.Tree
import RouteScribe.Settings.EnvFile
import RouteScribe.Text.Line
import RouteScribe.Text.Utf8

/-!
# Settings

What the command line does not say comes from variables of the environment, then
from the environment file `.env`, and is fixed otherwise.  The names of variables
are compared without regard to case.
-/

namespace RouteScribe

open RouteScribe.Number RouteScribe.Project RouteScribe.Text

structure Settings where
  configPath : String := "./docconfig.json"
  sourceRoot : String := "."
  /-- The seconds between two polls of a watcher. -/
  pollInterval : Binary64 := .ofDecimal false 1 0

namespace Settings

inductive SettingsError where
  | badInterval
  | undecodable (error : Utf8.DecodeError)
  deriving DecidableEq, Repr

def badIntervalMessage : String :=
  "Input should be a valid number, unable to parse string as a number"

def foldCase (name : String) : String :=
  onString (List.map Char.toLower) name

/-- Variables under names without regard to case; the last of equal names counts. -/
def foldNames {α : Type} (table : Table α) : Table α :=
  .ofPairs (table.map fun (name, value) => (foldCase name, value))

def envFilePath : Path :=
  .ofString ".env"

/-- The bindings of the environment file, none if there is no such file. -/
def envFileBindings (environment : Table String) (disk : Disk) :
    Except Utf8.DecodeError (Table (Option String)) :=
  match disk.read envFilePath with
  | .error _ => .ok []
  | .ok content =>
      (Utf8.decode content).map fun text => readEnvFile environment (normalizeNewlines text)

/-- The value of a setting: from the environment, or else from the environment file. -/
def settingValue? (environment : Table String) (bindings : Table (Option String))
    (setting : String) : Option String :=
  let name := "blueprint_docs_" ++ setting
  match (foldNames environment).get? name with
  | some value => some value
  | none => ((foldNames bindings).get? name).join

def load (environment : Table String) (disk : Disk) : Except SettingsError Settings :=
  match envFileBindings environment disk with
  | .error error => .error (.undecodable error)
  | .ok bindings =>
      let value? := settingValue? environment bindings
      let standard : Settings := {}
      let interval : Except SettingsError Binary64 :=
        match value? "poll_interval" with
        | none => .ok standard.pollInterval
        | some text =>
            match Binary64.ofLooseText? text.toList with
            | some number => .ok number
            | none => .error .badInterval
      interval.map fun pollInterval =>
        { configPath := (value? "config_path").getD standard.configPath
          sourceRoot := (value? "source_root").getD standard.sourceRoot
          pollInterval }

end Settings

end RouteScribe
