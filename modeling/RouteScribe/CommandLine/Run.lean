import RouteScribe.CommandLine.Arguments
import RouteScribe.Logging.Setup
import RouteScribe.Project.Watch
import RouteScribe.Settings.Basic
import RouteScribe.Shell.Run

/-!
# The command line

The program runs one documentation pass, or watches the sources.  Problems with the
config and the program go to the error stream and give the status one; wrong
arguments give the status two, an interrupt the status 130.  Any other error leaves
the program.
-/

namespace RouteScribe.CommandLine

open RouteScribe.Config RouteScribe.Logging RouteScribe.Project RouteScribe.Settings

/-- An error that leaves the program. -/
inductive Failure where
  | settings (error : SettingsError)
  | logging (error : SetupError)
  | config (fault : LoadFault)
  | pass (error : PassError)
  | watch (error : WatchError)

inductive Ending where
  | exit (status : Int)
  | failed (failure : Failure)

def Failure.message? : Failure → Option String
  | .settings .badInterval => some badIntervalMessage
  | .settings (.undecodable error) => some error.message
  | .logging error => error.message?
  | .config fault => some fault.message
  | .pass error => error.message?
  | .watch error => error.message?

/-- Everything that can be seen of a run. -/
structure Outcome where
  ending : Ending
  output : String := ""
  error : String := ""
  /-- The records that are shown, since the last nap of a watcher. -/
  log : List LogRecord := []
  /-- The naps of a watcher, with the records that are shown. -/
  naps : List Nap := []
  /-- The seconds that a nap takes. -/
  interval : Number.Binary64 := .zero false
  logging : Logging.State
  disk : Disk

structure Request where
  environment : Table String
  arguments : List String

/-- What a run comes to: an outcome, or a watcher that goes on until an interrupt,
with the seconds between its polls. -/
inductive Plan where
  | finished (outcome : Outcome)
  | watching (watcher : Watcher) (interval : Number.Binary64) (logging : Logging.State)

def shownThreshold (state : Logging.State) : Threshold :=
  if state.runner ≠ 0 then state.runner else state.program

def shown (state : Logging.State) (log : List LogRecord) : List LogRecord :=
  log.filter (passes (shownThreshold state))

/-- A line on the output or the error stream. -/
def asLine (text : String) : String :=
  text ++ "\n"

/-- Runs one pass with a config.  The status is that of the hook, if one ran. -/
def runOnce (environment : Table String) (state : Logging.State) (disk : Disk) (config : Config)
    (roots : List Path) : Outcome :=
  let run := runPass (Shell.small environment) config roots disk
  let outcome (ending : Ending) : Outcome :=
    { ending, log := shown state run.log, logging := state, disk := run.disk }
  match run.result with
  | .ok result =>
      { outcome (.exit (result.hook.getD 0)) with
        output := asLine (passSummary result.routers result.files result.output).message }
  | .error error =>
      match error.fatal? with
      | some report => { outcome (.exit 1) with error := asLine report }
      | none => outcome (.failed (.pass error))

/-- What arguments ask for, once logging is set up. -/
def planArguments (environment : Table String) (settings : Settings) (arguments : Arguments)
    (state : Logging.State) (disk : Disk) : Plan :=
  let configFile := Path.ofString (arguments.project.getD settings.configPath)
  let paths := if arguments.paths.isEmpty then [settings.sourceRoot] else arguments.paths
  let roots := paths.map Path.ofString
  if arguments.watch then
    .watching { configFile, roots, shell := Shell.small environment } settings.pollInterval state
  else
    match load disk configFile with
    | .ok config => .finished (runOnce environment state disk config roots)
    | .error (.problem problem) =>
        .finished { ending := .exit 1, error := asLine (problem.message configFile.text),
                    logging := state, disk }
    | .error (.fault fault) =>
        .finished { ending := .failed (.config fault), logging := state, disk }

def planWith (request : Request) (settings : Settings) (disk : Disk) : Plan :=
  let initial := Logging.State.initial request.environment
  match Arguments.read request.arguments with
  | .error .help => .finished { ending := .exit 0, output := helpText, logging := initial, disk }
  | .error (.misuse misuse) =>
      .finished { ending := .exit 2, error := misuse.text, logging := initial, disk }
  | .ok arguments =>
      match arguments.logLevel.filter (· ≠ "") with
      | none => planArguments request.environment settings arguments initial disk
      | some level =>
          match setUp request.environment disk none level initial with
          | (state, .error error) =>
              .finished { ending := .failed (.logging error), logging := state, disk }
          | (state, .ok ()) => planArguments request.environment settings arguments state disk

def plan (request : Request) (disk : Disk) : Plan :=
  match Settings.load request.environment disk with
  | .error error =>
      .finished
        { ending := .failed (.settings error), logging := .initial request.environment, disk }
  | .ok settings => planWith request settings disk

/-- The outcome of a watcher, during whose naps the file tree changes. -/
def watchOutcome (watcher : Watcher) (interval : Number.Binary64) (state : Logging.State)
    (changes : List (Disk → Except FileError Disk)) (disk : Disk) : Outcome :=
  let run := watcher.run changes disk
  { ending := match run.ending with
      | .finished _ => .exit 0
      | .interrupted => .exit 130
      | .failed error => .failed (.watch error)
    log := shown state run.log
    naps := run.naps.map fun nap => { nap with log := shown state nap.log }
    interval
    logging := state
    disk := run.disk }

/-- Runs the program.  The file tree changes during the naps of a watcher, and an
interrupt ends the watcher when there are no more changes. -/
def run (request : Request) (changes : List (Disk → Except FileError Disk)) (disk : Disk) :
    Outcome :=
  match plan request disk with
  | .finished outcome => outcome
  | .watching watcher interval state => watchOutcome watcher interval state changes disk

end RouteScribe.CommandLine
