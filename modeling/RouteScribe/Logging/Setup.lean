import RouteScribe.Logging.Config

/-!
# Setting up logging

Applying a config checks it and sets the thresholds of the loggers that it names.
A level given by the user goes to all loggers of this program.
-/

namespace RouteScribe.Logging

open RouteScribe.Json RouteScribe.Project RouteScribe.Text

/-- The thresholds of the loggers of this program, and the level that is shared with
other programs through the environment. -/
structure State where
  program : Threshold := usualThreshold
  generator : Threshold := 0
  runner : Threshold := 0
  sharedLevel : Option String := none
  deriving DecidableEq, Repr

def sharedLevelVariable : String := "PREFECT_LOGGING_LEVEL"

def State.initial (environment : Table String) : State :=
  { sharedLevel := environment.get? sharedLevelVariable }

def loggerNames : List String :=
  ["prefect.blueprint_docs", "prefect.blueprint_docs.generator", "prefect.blueprint_docs.runner"]

/-- Whether a logger stands below another one. -/
def isBelow (name above : String) : Bool :=
  (above ++ ".").toList.isPrefixOf name.toList

/-- The threshold of a logger after a config has been applied: the configured one, or
none if a logger above it is configured. -/
def configured (loggers : Table Value) (name : String) (threshold : Threshold) : Threshold :=
  match loggers.get? name with
  | some part => (((part.get? "level")).bind levelValue?).getD threshold
  | none => if loggers.names.any (isBelow name) then 0 else threshold

/-- The level that a config shares with other programs. -/
def sharedBy? (loggers : Table Value) : Option Value :=
  (loggers.get? "prefect").map fun part => (part.get? "level").getD (.str "INFO")

def applyConfig (config : Value) (state : State) : Except ApplyError State := do
  checkConfig config
  let loggers := ((config.get? "loggers").bind Value.asObject?).getD []
  let set (index : Nat) (threshold : Threshold) : Threshold :=
    configured loggers (loggerNames[index]?.getD "") threshold
  let state :=
    { state with
      program := set 0 state.program
      generator := set 1 state.generator
      runner := set 2 state.runner }
  match state.sharedLevel, sharedBy? loggers with
  | none, some (.str level) => return { state with sharedLevel := some level }
  | none, some _ => throw .mistyped
  | _, _ => return state

/-- Why logging cannot be set up. -/
inductive SetupError where
  | read (error : ReadError)
  | apply (error : ApplyError)
  | unknownLevel (name : String)

def unknownLevelMessage (name : String) : String :=
  "Unknown level: " ++ quoted name

def SetupError.message? : SetupError → Option String
  | .read error => error.message?
  | .apply error => error.message?
  | .unknownLevel name => some (unknownLevelMessage name)

/-- Sets all loggers of this program to a level; an empty name changes nothing. -/
def setLevel (name : String) (state : State) : Except SetupError State :=
  if name = "" then .ok state
  else
    match thresholdOf? name with
    | none => .error (.unknownLevel name)
    | some threshold =>
        .ok { program := threshold, generator := threshold, runner := threshold,
              sharedLevel := some name }

/-- Sets up logging: applies the config, then the level.  What was done before a
failure stays. -/
def setUp (environment : Table String) (disk : Disk) (given : Option Path) (level : String)
    (state : State) : State × Except SetupError Unit :=
  match loadConfig environment disk (configPath? environment given) with
  | .error error => (state, .error (.read error))
  | .ok config =>
      match applyConfig config state with
      | .error error => (state, .error (.apply error))
      | .ok applied =>
          match setLevel level applied with
          | .ok done => (done, .ok ())
          | .error error => (applied, .error error)

end RouteScribe.Logging
