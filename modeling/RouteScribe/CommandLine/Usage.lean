import RouteScribe.Text.Quoted

/-!
# Usage

The texts that tell how the program is called.
-/

namespace RouteScribe.CommandLine

def programName : String := "blueprint-docs"

inductive Flag where
  | help
  | project
  | watch
  | logLevel
  deriving DecidableEq, Repr

def allFlags : List Flag := [.help, .project, .watch, .logLevel]

def Flag.names : Flag → List String
  | .help => ["-h", "--help"]
  | .project => ["-p", "--project"]
  | .watch => ["-w", "--watch"]
  | .logLevel => ["--log-level"]

def Flag.takesValue : Flag → Bool
  | .help | .watch => false
  | .project | .logLevel => true

def flagNames : List (String × Flag) :=
  allFlags.flatMap fun flag => flag.names.map (·, flag)

def usageText : String :=
  "usage: blueprint-docs [-h] [-p PROJECT] [-w] [--log-level LOG_LEVEL]\n" ++
    "                      [paths ...]\n"

/-- The full description of the program. -/
def helpText : String :=
  usageText ++
    "\nGenerate API Blueprint documentation from commented route registrations\n" ++
    "\npositional arguments:\n" ++
    "  paths                 Source files or directories (default: current\n" ++
    "                        directory)\n" ++
    "\noptions:\n" ++
    "  -h, --help            show this help message and exit\n" ++
    "  -p PROJECT, --project PROJECT\n" ++
    "                        Path to a docconfig.json file describing documentation\n" ++
    "                        compilation parameters\n" ++
    "  -w, --watch           Watch input files\n" ++
    "  --log-level LOG_LEVEL\n" ++
    "                        Override the log level (DEBUG, INFO, ...)\n" ++
    "\nExample: blueprint-docs -p docconfig.json app/\n"

/-- How the program is called wrongly. -/
inductive Misuse where
  | ambiguous (text : String) (names : List String)
  | ignoredValue (flag : Flag) (value : String)
  | missingValue (flag : Flag)
  | unrecognized (texts : List String)
  deriving DecidableEq, Repr

def Flag.report (flag : Flag) (report : String) : String :=
  "argument " ++ "/".intercalate flag.names ++ ": " ++ report

def Misuse.message : Misuse → String
  | .ambiguous text names =>
      "ambiguous option: " ++ text ++ " could match " ++ ", ".intercalate names
  | .ignoredValue flag value => flag.report ("ignored explicit argument " ++ Text.quoted value)
  | .missingValue flag => flag.report "expected one argument"
  | .unrecognized texts => "unrecognized arguments: " ++ " ".intercalate texts

def Misuse.text (misuse : Misuse) : String :=
  usageText ++ programName ++ ": error: " ++ misuse.message ++ "\n"

end RouteScribe.CommandLine
