import RouteScribe.Json.Writer
import RouteScribe.Logging.Level
import RouteScribe.Logging.Outline
import RouteScribe.Project.Tree
import RouteScribe.Text.Utf8

/-!
# Logging configs

The logging config is a file that the caller or a variable of the environment
names; without such a file it is built in.  A config has a version, and it
describes formatters, handlers and loggers, which are checked in this order.
-/

namespace RouteScribe.Logging

open RouteScribe.Json RouteScribe.Project RouteScribe.Text

/-- The variables of the environment that name a logging config, in order. -/
def configVariables : List String :=
  ["BLUEPRINT_DOCS_LOGGING_CONFIG", "PREFECT_LOGGING_SETTINGS_PATH"]

/-- The path of the logging config: the given one, or the first that a variable
names. -/
def configPath? (environment : Table String) (given : Option Path) : Option Path :=
  given.orElse fun _ =>
    (configVariables.findSome? fun name => (environment.get? name).filter (· ≠ "")).map .ofString

def standardConfig (environment : Table String) : Value :=
  let level := (environment.get? "BLUEPRINT_DOCS_LOG_LEVEL").getD "INFO"
  .obj [("version", .int 1), ("disable_existing_loggers", .bool false),
    ("formatters", .obj [("standard", .obj [
      ("format", .str "%(asctime)s.%(msecs)03d | %(levelname)-7s | %(name)s - %(message)s"),
      ("datefmt", .str "%H:%M:%S")])]),
    ("handlers", .obj [("console", .obj [("class", .str "logging.StreamHandler"),
      ("formatter", .str "standard"), ("stream", .str "ext://sys.stdout")])]),
    ("loggers", .obj [("blueprint_docs", .obj [("level", .str level),
      ("handlers", .arr [.str "console"]), ("propagate", .bool false)])]),
    ("root", .obj [("level", .str "WARNING"), ("handlers", .arr [.str "console"])])]

/-- Why a logging config cannot be read. -/
inductive ReadError where
  | unreadable (error : FileError)
  | undecodable (error : Utf8.DecodeError)
  | malformed
  deriving DecidableEq, Repr

def ReadError.message? : ReadError → Option String
  | .unreadable error => some error.message
  | .undecodable error => some error.message
  | .malformed => none

/-- Reads the logging config at a path; the built-in one stands in for a file that is
missing. -/
def loadConfig (environment : Table String) (disk : Disk) (path : Option Path) :
    Except ReadError Value :=
  match path with
  | none => .ok (standardConfig environment)
  | some path =>
      match disk.read path with
      | .error .isADirectory => .error (.unreadable ⟨.isADirectory, path⟩)
      | .error _ => .ok (standardConfig environment)
      | .ok content =>
          match Utf8.decode content with
          | .error error => .error (.undecodable error)
          | .ok text =>
              match readOutline? (normalizeNewlines text) with
              | some config => .ok config
              | none => .error .malformed

/-- Why a logging config cannot be applied. -/
inductive ApplyError where
  | noVersion
  | badVersion (version : Value)
  | badFormatter (name : String)
  | badHandler (name : String)
  | badLogger (name : String)
  | badRoot
  /-- A part is of a type that is not looked into. -/
  | mistyped

def ApplyError.message? : ApplyError → Option String
  | .noVersion => some "dictionary doesn't specify a version"
  | .badVersion version => version.displayPlain?.map ("Unsupported version: " ++ ·)
  | .badFormatter name => some ("Unable to configure formatter " ++ quoted name)
  | .badHandler name => some ("Unable to configure handler " ++ quoted name)
  | .badLogger name => some ("Unable to configure logger " ++ quoted name)
  | .badRoot => some "Unable to configure root logger"
  | .mistyped => none

def levelValue? : Value → Option Threshold
  | .int rank => some rank.toNat
  | .bool flag => some flag.toNat
  | .str name => thresholdOf? name
  | _ => none

def hasValidLevel (part : Table Value) : Bool :=
  match part.get? "level" with
  | none | some .null => true
  | some level => (levelValue? level).isSome

def section? (config : Table Value) (name : String) : Except ApplyError (Table Value) :=
  match config.get? name with
  | none => .ok []
  | some (.obj entries) => .ok entries
  | some _ => .error .mistyped

def handlerClasses : Table (List String) :=
  [("logging.StreamHandler", ["stream"]), ("logging.NullHandler", []),
    ("logging.FileHandler", ["filename", "mode", "encoding", "delay", "errors"])]

/-- Whether a part describes a handler of a known class, with settings of that class. -/
def isHandler (formatters part : Table Value) : Bool :=
  match ((part.get? "class").bind Value.asString?).bind handlerClasses.get? with
  | none => false
  | some settings =>
      let formatter := match part.get? "formatter" with
        | none | some .null | some (.str "") => true
        | some (.str name) => formatters.has name
        | some _ => false
      let isSetting (name : String) : Bool :=
        ["class", "formatter", "level", "filters"].contains name || settings.contains name
      formatter && hasValidLevel part && part.names.all isSetting &&
        (!settings.contains "filename" || part.has "filename")

/-- Whether a part that describes a logger is valid, where some handlers are known. -/
def isLogger (handlers part : Table Value) : Bool :=
  let known : Value → Bool
    | .str name => handlers.has name
    | _ => false
  let uses := match part.get? "handlers" with
    | none => true
    | some (.arr names) => names.all known
    | some value => value.isFalsy
  hasValidLevel part && uses

/-- The name of the first part of a section that is no object or fails a test. -/
def firstBad? (test : Table Value → Bool) (parts : Table Value) : Option String :=
  (parts.find? fun (_, part) => !(part.asObject?.map test).getD false).map Prod.fst

/-- Whether a value is the version that configs have. -/
def isVersionOne : Value → Bool
  | .int version => version = 1
  | .bool flag => flag
  | .float version => version = .ofDecimal false 1 0
  | _ => false

/-- Refuses a config because of the first bad part of a section, if there is one. -/
def refuseBad (error : String → ApplyError) : Option String → Except ApplyError Unit
  | some name => .error (error name)
  | none => .ok ()

def checkVersion (config : Table Value) : Except ApplyError Unit :=
  match config.get? "version" with
  | none => .error .noVersion
  | some version => if isVersionOne version then .ok () else .error (.badVersion version)

def checkRoot (handlers config : Table Value) : Except ApplyError Unit :=
  match config.get? "root" with
  | none => .ok ()
  | some root =>
      if root.isFalsy || (root.asObject?.map (isLogger handlers)).getD false then .ok ()
      else .error .badRoot

def checkEntries (config : Table Value) : Except ApplyError Unit := do
  checkVersion config
  let formatters ← section? config "formatters"
  refuseBad .badFormatter (firstBad? (fun _ => true) formatters)
  let handlers ← section? config "handlers"
  let byName : Table Value := handlers.mergeSort fun left right => left.1 ≤ right.1
  refuseBad .badHandler (firstBad? (isHandler formatters) byName)
  let loggers ← section? config "loggers"
  refuseBad .badLogger (firstBad? (isLogger handlers) loggers)
  checkRoot handlers config

def checkConfig (config : Value) : Except ApplyError Unit :=
  match config.asObject? with
  | some entries => checkEntries entries
  | none => .error .mistyped

end RouteScribe.Logging
