import RouteScribe.Project.Hook
import RouteScribe.Shell.Reader
import RouteScribe.Shell.Tool

/-!
# Running shell scripts

A script runs on a file tree.  What its commands write is collected unless a
redirection sends it to a file or a pipe to the next command.  A subshell and the
parts of a pipe keep their variables and their exit to themselves.
-/

namespace RouteScribe.Shell

open RouteScribe.Project RouteScribe.Text

/-- How a script came to an early end. -/
inductive Ending where
  | exited (status : Nat)
  | killed (signal : Nat)
  deriving DecidableEq, Repr

/-- The state of a running script. -/
structure Session where
  disk : Disk
  output : List UInt8 := []
  error : List UInt8 := []
  environment : Table String := []
  status : Nat := 0
  ending : Option Ending := none

inductive Target where
  | collected (stream : Stream)
  | file (path : Path)
  | nowhere
  deriving DecidableEq, Repr

/-- Where the streams of a command come from and lead to. -/
structure Routing where
  input : List UInt8
  output : Target
  error : Target

def reportName (line : Nat) : String :=
  "/bin/sh: " ++ toString line ++ ": "

/-- The value that names the running shell. -/
def shellNumber : String := "1"

def Session.value (session : Session) (name : String) : String :=
  match name with
  | "?" => toString session.status
  | "$" => shellNumber
  | "#" => "0"
  | name => (session.environment.get? name).getD ""

/-- The fields of a text that is split at blanks, where the first continues a field
that may be open.  Gives the closed fields and the open one. -/
def splitFields : (field : Option (List Char)) → List Char → List String × Option (List Char)
  | field, [] => ([], field)
  | field, c :: rest =>
      if c = ' ' || c = '\t' || c = '\n' then
        let (fields, last) := splitFields none rest
        (field.toList.map String.ofList ++ fields, last)
      else splitFields (some (field.getD [] ++ [c])) rest

/-- The fields of a word, of which one may be open. -/
def Session.expandFrom (session : Session) : (field : Option (List Char)) → Word → List String
  | field, [] => field.toList.map String.ofList
  | field, .literal _ text :: pieces =>
      session.expandFrom (some (field.getD [] ++ text)) pieces
  | field, .variable true name :: pieces =>
      session.expandFrom (some (field.getD [] ++ (session.value name).toList)) pieces
  | field, .variable false name :: pieces =>
      let (fields, last) := splitFields field (session.value name).toList
      fields ++ session.expandFrom last pieces

def Session.expand (session : Session) (word : Word) : List String :=
  session.expandFrom none word

def Session.textOf (session : Session) (word : Word) : String :=
  "".intercalate (word.map fun piece =>
    match piece with
    | .literal _ text => .ofList text
    | .variable _ name => session.value name)

def Session.emit (session : Session) (target : Target) (content : List UInt8) : Session :=
  match target with
  | .collected .output => { session with output := session.output ++ content }
  | .collected .error => { session with error := session.error ++ content }
  | .nowhere => session
  | .file path =>
      let before := ((session.disk.read path).toOption).getD []
      match session.disk.write path (before ++ content) with
      | .ok disk => { session with disk }
      | .error _ => session

/-- Takes over what a command leaves behind. -/
def Session.absorb (session : Session) (routing : Routing) (effect : Effect) : Session :=
  let taken := { session with disk := effect.disk, status := effect.status }
  effect.written.foldl (fun session (stream, content) =>
    session.emit (match stream with | .output => routing.output | .error => routing.error)
      content) taken

/-- A report of the shell that sets the status. -/
def Session.complain (session : Session) (routing : Routing) (line status : Nat)
    (report : String) : Session :=
  session.absorb routing (.complain session.disk status (reportName line ++ report))

def Routing.set (routing : Routing) (stream : Nat) (target : Target) : Routing :=
  match stream with
  | 1 => { routing with output := target }
  | 2 => { routing with error := target }
  | _ => routing

/-- Why a file of a redirection cannot be used. -/
def redirectReport (action name missing : String) (fault : FileFault) : String :=
  "cannot " ++ action ++ " " ++ name ++ ": " ++
    match fault with
    | .notFound | .notADirectory => missing
    | fault => fault.text

/-- The path of a file that forgets everything. -/
def nullName : String := "/dev/null"

def redirectOne (session : Session) (routing : Routing) (redirect : Redirect) :
    Except String (Session × Routing) :=
  let name := session.textOf redirect.target
  let path := Path.ofString name
  let create (disk : Except FileFault Disk) : Except String (Session × Routing) :=
    match disk with
    | .ok disk => .ok ({ session with disk }, routing.set redirect.stream (.file path))
    | .error fault => .error (redirectReport "create" name "Directory nonexistent" fault)
  match redirect.kind with
  | .duplicate =>
      match name with
      | "1" => .ok (session, routing.set redirect.stream routing.output)
      | "2" => .ok (session, routing.set redirect.stream routing.error)
      | "0" | "-" => .ok (session, routing.set redirect.stream .nowhere)
      | _ => .error "Bad file descriptor"
  | .fromFile =>
      if name = nullName then .ok (session, { routing with input := [] })
      else
        match session.disk.read path with
        | .ok input => .ok (session, { routing with input })
        | .error fault => .error (redirectReport "open" name "No such file" fault)
  | kind =>
      if name = nullName then .ok (session, routing.set redirect.stream .nowhere)
      else if kind = .toEnd && session.disk.isFile path then create (.ok session.disk)
      else create (session.disk.write path [])

/-- Carries out redirections in order, up to the first that fails. -/
def redirectAll (session : Session) (routing : Routing) :
    List Redirect → Except (Session × String) (Session × Routing)
  | [] => .ok (session, routing)
  | redirect :: redirects =>
      match redirectOne session routing redirect with
      | .ok (session, routing) => redirectAll session routing redirects
      | .error report => .error (session, report)

/-- The signals that end a shell, by name. -/
def signalNumbers : Table Nat :=
  [("HUP", 1), ("INT", 2), ("QUIT", 3), ("ILL", 4), ("TRAP", 5), ("ABRT", 6), ("BUS", 7),
    ("FPE", 8), ("KILL", 9), ("USR1", 10), ("SEGV", 11), ("USR2", 12), ("PIPE", 13),
    ("ALRM", 14), ("TERM", 15)]

def signalOf? (text : String) : Option Nat :=
  if text.toList.all Char.isDigit then text.toNat? else signalNumbers.get? text

def isDeadly (signal : Nat) : Bool :=
  1 ≤ signal && signal ≤ 15

/-- The signal and the processes that the operands of `kill` name. -/
def killOperands : List String → Option (Nat × List String)
  | "-s" :: name :: processes => (signalOf? name).map (·, processes)
  | first :: processes =>
      match first.toList with
      | '-' :: name => (signalOf? (.ofList name)).map (·, processes)
      | _ => some (15, first :: processes)
  | [] => none

def kill (session : Session) (routing : Routing) (line : Nat) (operands : List String) :
    Session :=
  match killOperands operands with
  | none => session.complain routing line 2 "kill: Illegal option"
  | some (signal, processes) =>
      if processes.contains shellNumber then
        if isDeadly signal then { session with ending := some (.killed signal) }
        else { session with status := 0 }
      else
        match processes.find? fun process => (numeral? process).isNone with
        | some process => session.complain routing line 2 ("kill: Illegal number: " ++ process)
        | none => session.complain routing line 1 "kill: No such process\n"

/-- The greatest number that `exit` accepts. -/
def exitLimit : Nat := 2147483647

def exit (session : Session) (routing : Routing) (line : Nat) : List String → Session
  | [] => { session with ending := some (.exited session.status) }
  | operand :: _ =>
      let code := if operand.toList.all Char.isDigit then operand.toNat? else none
      match code.filter (· ≤ exitLimit) with
      | some code => { session with ending := some (.exited (code % 256)) }
      | none =>
          { session.complain routing line 2 ("exit: Illegal number: " ++ operand) with
            ending := some (.exited 2) }

def runNamed (session : Session) (routing : Routing) (line : Nat) (name : String)
    (operands : List String) : Session :=
  match name with
  | "exit" => exit session routing line operands
  | "kill" => kill session routing line operands
  | name =>
      match runTool (reportName line) session.disk routing.input name operands with
      | some effect => session.absorb routing effect
      | none => session.complain routing line 127 (name ++ ": not found")

/-- Keeps variables and an exit inside a part of a script. -/
def Session.isolate (outer inner : Session) : Session :=
  let kept := { inner with environment := outer.environment }
  match inner.ending with
  | some (.exited status) => { kept with status, ending := none }
  | _ => kept

/-- Gives variables their values. -/
def Session.assign (session : Session) (assignments : List (String × Word)) : Session :=
  assignments.foldl (fun session (name, word) =>
    { session with environment := session.environment.put name (session.textOf word) }) session

def run : Command → Routing → Session → Session
  | .nothing, _, session => session
  | .simple line assignments words redirects, routing, session =>
      if session.ending.isSome then session
      else
        match words.flatMap session.expand, redirectAll session routing redirects with
        | _, .error (session, report) => session.complain routing line 2 report
        | [], .ok (session, _) => { session.assign assignments with status := 0 }
        | name :: operands, .ok (session, inner) => runNamed session inner line name operands
  | .group line isolated body redirects, routing, session =>
      if session.ending.isSome then session
      else
        match redirectAll session routing redirects with
        | .error (session, report) => session.complain routing line 2 report
        | .ok (session, inner) =>
            let done := run body inner session
            if isolated then session.isolate done else done
  | .negation body, routing, session =>
      let done := run body routing session
      { done with status := if done.status = 0 then 1 else 0 }
  | .pipe left right, routing, session =>
      if session.ending.isSome then session
      else
        let first := session.isolate
          (run left { routing with output := .collected .output } { session with output := [] })
        let second := { first with output := session.output }
        second.isolate (run right { routing with input := first.output } second)
  | .both left right, routing, session =>
      let first := run left routing session
      if first.status = 0 && first.ending.isNone then run right routing first else first
  | .either left right, routing, session =>
      let first := run left routing session
      if first.status ≠ 0 && first.ending.isNone then run right routing first else first
  | .sequence left right, routing, session => run right routing (run left routing session)

/-- A shell that knows the tools of this library. -/
def small (environment : Table String) : SystemShell := fun disk script =>
  match Command.read script with
  | .error error =>
      let report := reportName error.line ++ error.fault.message ++ "\n"
      { disk, output := [], error := Utf8.encode report.toList, code := 2 }
  | .ok command =>
      let session := run command ⟨[], .collected .output, .collected .error⟩ { disk, environment }
      let code : Int := match session.ending with
        | none => session.status
        | some (.exited status) => status
        | some (.killed signal) => -signal
      { disk := session.disk, output := session.output, error := session.error, code }

end RouteScribe.Shell
