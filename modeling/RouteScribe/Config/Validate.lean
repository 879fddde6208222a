import RouteScribe.Config.Basic
import RouteScribe.Config.Model

/-!
# Validating a config

The checks of the config itself, which stand around those of the library of models.  Only
the output is required.  An optional text or example of the wrong type is ignored before the
library sees it; lists of names are left to the library, so they must be arrays of strings.
-/

namespace RouteScribe.Config

open RouteScribe.Config.Model RouteScribe.Json

/-- A string, or nothing for a value of another type. -/
def optionalString (value : Option Value) : Option String :=
  value.bind Value.asString?

def entriesOf (value : Option Value) : Table Value :=
  (value.bind Value.asObject?).getD []

/-- A number; booleans are none. -/
def asNumeral? : Value → Option Numeral
  | .int value => some (.int value)
  | .float value => some (.float value)
  | _ => none

def asBool? : Value → Option Bool
  | .bool value => some value
  | _ => none

/-- Reads example defaults; entries of the wrong type count as absent. -/
def Defaults.ofValue (value : Value) : Defaults :=
  let entries := entriesOf (some value)
  let standard : Defaults := {}
  let string (key : String) := optionalString (entries.get? key)
  { string := (string "string").getD standard.string
    number := ((entries.get? "number").bind asNumeral?).getD standard.number
    boolean := ((entries.get? "boolean").bind asBool?).getD standard.boolean
    jsonKey := ((string "jsonKey").orElse fun _ => string "json_key").getD standard.jsonKey }

/-- Reads example tables.  Entries under `all` go into both tables. -/
def Examples.ofValue (value : Value) : Examples :=
  let entries := entriesOf (some value)
  let shared := entriesOf (entries.get? "all")
  { response := (entriesOf (entries.get? "response")).merge shared
    param := (entriesOf (entries.get? "param")).merge shared }

def outputNotDefined : String := "Property output is not defined"

def checkOutput : Check String
  | _, .str output => .ok output
  | key, _ => .error [⟨[.key key], .refused outputNotDefined⟩]

/-- Reads the entries of a config, or lists everything that is wrong with them. -/
def ofEntries (entries : Table Value) : Except (List Problem) Config :=
  let standard : Config := { output := "" }
  let output := required "output" checkOutput (fieldOf entries "output" "output")
  let routerTypes :=
    withDefault standard.routerTypes stringArray (fieldOf entries "routerTypes" "router_types")
  let exclude := withDefault standard.exclude stringArray (fieldOf entries "exclude" "exclude")
  match output, routerTypes, exclude with
  | .ok output, .ok routerTypes, .ok exclude =>
      .ok
        { output, routerTypes, exclude
          host := optionalString (entries.get? "host")
          title := optionalString (entries.get? "title")
          description := optionalString (entries.get? "description")
          defaults := .ofValue ((entries.get? "defaults").getD .null)
          examples := .ofValue ((entries.get? "examples").getD .null)
          afterHook :=
            optionalString ((fieldOf entries "afterHook" "after_hook").map (·.2)) }
  | _, _, _ => .error (problemsOf output ++ problemsOf routerTypes ++ problemsOf exclude)

/-- Reads a config, or lists everything that is wrong with it. -/
def ofValue (value : Value) : Except (List Problem) Config :=
  match value.asObject? with
  | some entries => ofEntries entries
  | none => .error [⟨[], .notAnObject "DocConfig"⟩]

/-- Why a decoded config is refused. -/
inductive Refusal where
  | notAnObject
  | outputNotDefined
  | problems (list : List Problem)
  deriving DecidableEq, Repr

/-- The message of a fault without the mark of the library. -/
def reportOf : Fault → String
  | .refused report => report
  | fault => fault.message

def Refusal.message : Refusal → String
  | .notAnObject => "Config must be a JSON object"
  | .outputNotDefined => Config.outputNotDefined
  | .problems list => "; ".intercalate (list.map fun problem => reportOf problem.fault)

def validate (value : Value) : Except Refusal Config :=
  match value.asObject? with
  | some entries =>
      if (optionalString (entries.get? "output")).isSome then
        (ofEntries entries).mapError .problems
      else .error .outputNotDefined
  | none => .error .notAnObject

end RouteScribe.Config
