import RouteScribe.Config.Load
import RouteScribe.Project.Pass

/-!
# Watching sources

A watcher polls the file tree.  It runs a pass at its first poll, and later
whenever the stamps of the config file and the discovered sources differ from those
at the last pass.  Between two polls it takes a nap, during which the tree may
change.  Problems with the config, the program and files are logged, and the
watcher goes on.
-/

namespace RouteScribe.Project

open RouteScribe.Config

/-- The stamps of watched files by path. -/
abbrev Snapshot := Table Int

/-- Whether two snapshots give the same stamps to the same files. -/
def Snapshot.same (left right : Snapshot) : Bool :=
  (left.all fun (path, stamp) => right.get? path = some stamp) &&
    right.all fun (path, _) => left.has path

/-- The stamps of those files that are there. -/
def snapshot (disk : Disk) (paths : List Path) : Snapshot :=
  .ofPairs (paths.filterMap fun path => (disk.stamp? path).map (path.text, ·))

/-- What a watcher watches. -/
structure Watcher where
  configFile : Path
  roots : List Path
  /-- The number of passes after which the watcher ends. -/
  limit : Option Int := none
  shell : SystemShell

inductive WatchError where
  | config (fault : LoadFault)
  /-- The path of a source has a null character. -/
  | nullCharacter
  | pass (error : PassError)
  /-- The tree could not be changed during a nap. -/
  | nap (error : FileError)

def WatchError.message? : WatchError → Option String
  | .config fault => some fault.message
  | .nullCharacter => some FileFault.nullCharacter.text
  | .pass error => error.message?
  | .nap error => some error.message

/-- What a poll finds: the config or what is wrong with it, and the stamps. -/
structure Sight where
  config : Except LoadProblem Config
  stamps : Snapshot

/-- One poll of a watcher, with the pass it may have started. -/
structure Round where
  disk : Disk
  log : List LogRecord
  started : Bool
  /-- The stamps at the last pass that was started. -/
  stamps : Snapshot
  error : Option WatchError := none

/-- The state of the tree at a nap, with the log since the nap before. -/
structure Nap where
  disk : Disk
  log : List LogRecord

inductive WatchEnd where
  | finished (passes : Nat)
  | interrupted
  | failed (error : WatchError)

/-- Everything a watcher did; `log` holds the records since the last nap. -/
structure WatchRun where
  naps : List Nap := []
  log : List LogRecord := []
  disk : Disk
  ending : WatchEnd

/-- The report of an error that a watcher logs before it goes on. -/
def PassError.logged? : PassError → Option String
  | .file error => error.report?
  | error => error.fatal?

namespace Watcher

/-- Looks at the config file and the sources that it does not exclude.  Without a
valid config nothing is excluded. -/
def look (watcher : Watcher) (disk : Disk) : Except WatchError Sight :=
  let sight (config : Except LoadProblem Config) (exclude : List String) :
      Except WatchError Sight :=
    let files := watcher.configFile :: discover disk exclude watcher.roots
    if files.any Path.hasNull then .error .nullCharacter else .ok ⟨config, snapshot disk files⟩
  match load disk watcher.configFile with
  | .ok config => sight (.ok config) config.exclude
  | .error (.problem problem) => sight (.error problem) []
  | .error (.fault fault) => .error (.config fault)

def startRecord : LogRecord :=
  ⟨.info, "Starting documentation pass"⟩

def endRecord : LogRecord :=
  ⟨.info, "Documentation pass complete. Watching for file changes."⟩

def passRound (watcher : Watcher) (sight : Sight) (disk : Disk) : Round :=
  match sight.config with
  | .error problem =>
      let report : LogRecord := ⟨.error, problem.message watcher.configFile.text⟩
      { disk, log := [startRecord, report, endRecord], started := true, stamps := sight.stamps }
  | .ok config =>
      let run := runPass watcher.shell config watcher.roots disk
      let log := startRecord :: run.log
      let round : Round :=
        { disk := run.disk, log := log ++ [endRecord], started := true, stamps := sight.stamps }
      match run.result with
      | .ok _ => round
      | .error error =>
          match error.logged? with
          | some report => { round with log := log ++ [⟨.error, report⟩, endRecord] }
          | none => { round with log, error := some (.pass error) }

/-- One round of a watcher that remembers the stamps at its last pass. -/
def round (watcher : Watcher) (last : Option Snapshot) (disk : Disk) : Round :=
  match watcher.look disk with
  | .error error => { disk, log := [], started := false, stamps := [], error := some error }
  | .ok sight =>
      match last.filter (·.same sight.stamps) with
      | some last => { disk, log := [], started := false, stamps := last }
      | none => watcher.passRound sight disk

/-- Whether a watcher has run as many passes as it may. -/
def isSpent (watcher : Watcher) (passes : Nat) : Bool :=
  match watcher.limit with
  | some limit => limit ≤ passes
  | none => false

/-- Runs a watcher from a state on.  Each nap changes the tree as the next of the
given changes says; when there is none left the watcher is interrupted. -/
def runFrom (watcher : Watcher) : (changes : List (Disk → Except FileError Disk)) →
    (last : Option Snapshot) → (passes : Nat) → Disk → WatchRun
  | changes, last, passes, disk =>
      if watcher.isSpent passes then { disk, ending := .finished passes }
      else
        let round := watcher.round last disk
        let passes := if round.started then passes + 1 else passes
        let nap : Nap := ⟨round.disk, round.log⟩
        match round.error with
        | some error => { log := round.log, disk := round.disk, ending := .failed error }
        | none =>
            if watcher.isSpent passes then
              { log := round.log, disk := round.disk, ending := .finished passes }
            else
              match changes with
              | [] => { naps := [nap], disk := round.disk, ending := .interrupted }
              | change :: changes =>
                  match change round.disk with
                  | .error error =>
                      { naps := [nap], disk := round.disk, ending := .failed (.nap error) }
                  | .ok disk =>
                      let later := runFrom watcher changes (some round.stamps) passes disk
                      { later with naps := nap :: later.naps }

def run (watcher : Watcher) (changes : List (Disk → Except FileError Disk)) (disk : Disk) :
    WatchRun :=
  watcher.runFrom changes none 0 disk

end Watcher

end RouteScribe.Project
