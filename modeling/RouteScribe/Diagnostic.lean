import RouteScribe.Table
import RouteScribe.Text.Blank

/-!
# Diagnostics and the log

A diagnostic points at a line of a source file.  It is shown with that line when
the lines of the file are known.  Everything the program reports while it runs
goes to a log of leveled records.
-/

namespace RouteScribe

open RouteScribe.Text

inductive Severity where
  | error
  | warning
  | message
  deriving DecidableEq, Repr

def Severity.word : Severity → String
  | .error => "error"
  | .warning => "warning"
  | .message => "message"

def Severity.ofWord? (word : String) : Option Severity :=
  [Severity.error, .warning, .message].find? (·.word = word)

/-- The importance of a log record. -/
inductive Level where
  | debug
  | info
  | warning
  | error
  deriving DecidableEq, Repr

def Level.name : Level → String
  | .debug => "DEBUG"
  | .info => "INFO"
  | .warning => "WARNING"
  | .error => "ERROR"

/-- The rank of a level; a more important one is greater. -/
def Level.rank : Level → Nat
  | .debug => 10
  | .info => 20
  | .warning => 30
  | .error => 40

structure LogRecord where
  level : Level
  message : String
  deriving DecidableEq, Repr

/-- A report about a line of a file.  The line is counted from zero. -/
structure Diagnostic where
  severity : Severity
  file : String
  line : Int
  message : String
  deriving DecidableEq, Repr

def diagnosticCode : String := "HDOC"

/-- A text moved to the right end of a field. -/
def alignRight (width : Nat) (text : String) : String :=
  .ofList (List.replicate (width - text.length) ' ') ++ text

/-- A diagnostic as text, with the line it points at if that is known. -/
def Diagnostic.format (diagnostic : Diagnostic) (sourceLine : Option String) : String :=
  let number := toString (diagnostic.line + 1)
  let report := diagnostic.file ++ ":" ++ number ++ " - " ++ diagnostic.severity.word ++ " " ++
    diagnosticCode ++ ": " ++ diagnostic.message
  match sourceLine with
  | some line => report ++ "\n" ++ alignRight 6 number ++ " | " ++ onString trimEnd line
  | none => report

def Severity.level : Severity → Level
  | .error => .error
  | .warning => .warning
  | .message => .info

/-- The line of a list that an index from zero points at. -/
def lineAt? (lines : List String) (index : Int) : Option String :=
  if index < 0 then none else lines[index.toNat]?

/-- The log record of a diagnostic, given the lines of the known files. -/
def Diagnostic.toRecord (sources : Table (List String)) (diagnostic : Diagnostic) : LogRecord :=
  let line := (sources.get? diagnostic.file).bind (lineAt? · diagnostic.line)
  ⟨diagnostic.severity.level, diagnostic.format line⟩

end RouteScribe
