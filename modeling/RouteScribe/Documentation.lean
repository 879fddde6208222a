import RouteScribe.Blueprint.Writer
import RouteScribe.Project.Discovery
import RouteScribe.Route.Scan

/-!
# Documenting a program

The document of a program is its header followed by the sections of its files, in
order.  A file is scanned to its end before anything is written for it, so an
error leaves a document that ends with the last whole file before it.
-/

namespace RouteScribe

open RouteScribe.Blueprint RouteScribe.Config RouteScribe.Project RouteScribe.Route
open RouteScribe.Schema RouteScribe.Source

/-- What happens while a program is documented. -/
inductive Event where
  | diagnostic (diagnostic : Diagnostic)
  | record (record : LogRecord)
  deriving DecidableEq, Repr

/-- Why a program cannot be documented to its end. -/
inductive DocumentError where
  | scan (error : ScanError)
  /-- A payload cannot be written as JSON. -/
  | unwritable

def DocumentError.message? : DocumentError → Option String
  | .scan error => error.message?
  | .unwritable => none

/-- What has been written and reported, with the number of routers or an error. -/
structure Documented where
  text : String
  events : List Event
  outcome : Except DocumentError Nat

def scanSummary (file : SourceFile) (routers : List Router) : LogRecord :=
  ⟨.debug, file.path.text ++ ": " ++ toString routers.length ++ " routers, " ++
    toString (routeCount routers) ++ " routes"⟩

/-- Documents files in order, up to the first error. -/
def documentFiles (config : Config) (types : TypeTable) : List SourceFile → Documented
  | [] => { text := "", events := [], outcome := .ok 0 }
  | file :: files =>
      if isExcluded config.exclude file.path.text then documentFiles config types files
      else
        let scanned := scan { file, types, config }
        let reports := scanned.diagnostics.map Event.diagnostic
        match scanned.result with
        | .error error => { text := "", events := reports, outcome := .error (.scan error) }
        | .ok routers =>
            let sections := Written.all (routers.map writeRouter)
            let events := reports ++ [.record (scanSummary file routers)]
            if sections.complete then
              let rest := documentFiles config types files
              { text := sections.text ++ rest.text
                events := events ++ rest.events
                outcome := rest.outcome.map (· + routers.length) }
            else { text := sections.text, events, outcome := .error .unwritable }

def documentProgram (config : Config) (files : List SourceFile) : Documented :=
  let documented := documentFiles config (.ofFiles files) files
  { documented with
    text := headerText config.host config.title config.description ++ documented.text }

/-- The lines of files by path; the lines of the last file with a path count. -/
def linesByPath (files : List SourceFile) : Table (List String) :=
  .ofPairs (files.map fun file => (file.path.text, file.lines))

/-- The log of what happened, where diagnostics show the lines they point at. -/
def Event.toRecord (sources : Table (List String)) : Event → LogRecord
  | .diagnostic report => report.toRecord sources
  | .record entry => entry

end RouteScribe
