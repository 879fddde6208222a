import RouteScribe.Config.Basic
import RouteScribe.Json.Writer

/-!
# Example values

An example is built from a schema: objects get an example for every property and
one extra entry if further entries have a schema of their own, arrays get one
item or one item for each position, and primitives get the defaults of the
config.  A property whose name has an example in the table of its context gets
that value instead, unless it is an object.
-/

namespace RouteScribe.Example

open RouteScribe.Json RouteScribe.Config

inductive ExampleError where
  /-- The schema has a kind that examples do not know; both are shown. -/
  | unsupported (kind schema : String)
  /-- The schema at fault cannot even be shown. -/
  | noJsonForm
  /-- A value stands where a schema is needed. -/
  | notASchema
  deriving BEq, Repr

def unsupportedMessage (kind schema : String) : String :=
  "Unexpected type " ++ kind ++ " in schema " ++ schema

/-- The kind of a schema: its type, or the first of a list of types. -/
def kindOf (entries : Table Value) : Value :=
  match entries.get? "type" with
  | some (.arr (first :: _)) => first
  | some kind => kind
  | none => .null

/-- The failure for a schema of unknown kind. -/
def unsupported (entries : Table Value) : ExampleError :=
  match (kindOf entries).displayPlain?, (Value.obj entries).compact? with
  | some kind, some schema => .unsupported kind schema
  | _, _ => .noJsonForm

def named? (table : Table Value) (name : Option String) : Option Value :=
  name.bind table.get?

section

variable (defaults : Defaults) (table : Table Value)

def primitive? : String → Option Value
  | "string" => some (.str defaults.string)
  | "number" => some defaults.number.toValue
  | "boolean" => some (.bool defaults.boolean)
  | _ => none

mutual

def ofSchema (name : Option String) : Value → Except ExampleError Value
  | .obj entries =>
      match kindOf entries with
      | .str "object" => do
          let properties ← ofProperties entries
          match ← ofAdditional entries with
          | some extra => return .obj (Table.put defaults.jsonKey extra properties)
          | none => return .obj properties
      | .str "array" =>
          match named? table name with
          | some value => .ok value
          | none => (ofItems entries).map .arr
      | .str kind =>
          match primitive? defaults kind with
          | some value => .ok ((named? table name).getD value)
          | none => .error (unsupported entries)
      | _ => .error (unsupported entries)
  | _ => .error .notASchema

def ofProperties : List (String × Value) → Except ExampleError (List (String × Value))
  | [] => .ok []
  | (key, value) :: entries =>
      if key = "properties" then
        match value with
        | .obj properties => ofNamed properties
        | other => if other.isFalsy then .ok [] else .error .notASchema
      else ofProperties entries

def ofNamed : List (String × Value) → Except ExampleError (List (String × Value))
  | [] => .ok []
  | (name, schema) :: rest => do
      let value ← ofSchema (some name) schema
      let values ← ofNamed rest
      return (name, value) :: values

/-- The example of a further entry, if an object schema has a schema for such. -/
def ofAdditional : List (String × Value) → Except ExampleError (Option Value)
  | [] => .ok none
  | (key, value) :: entries =>
      if key = "additionalProperties" then
        match value with
        | .obj schema => (ofSchema none (.obj schema)).map some
        | _ => .ok none
      else ofAdditional entries

def ofItems : List (String × Value) → Except ExampleError (List Value)
  | [] => .error (unsupported [])
  | (key, value) :: entries =>
      if key = "items" then
        match value with
        | .arr schemas => ofPositions schemas
        | schema =>
            if schema.isFalsy then .error (unsupported [])
            else (ofSchema none schema).map ([·])
      else ofItems entries

def ofPositions : List Value → Except ExampleError (List Value)
  | [] => .ok []
  | schema :: schemas => do
      let value ← ofSchema none schema
      let values ← ofPositions schemas
      return value :: values

end

end

def payload (config : Config) (schema : Value) : Except ExampleError Value :=
  ofSchema config.defaults config.examples.response none schema

/-- The example of a parameter as text.  A value that is no string is written as
JSON. -/
def param (config : Config) (name : String) : String :=
  match config.examples.param.get? name with
  | some (.str text) => text
  | some value => (value.compact?).getD ""
  | none => config.defaults.string

end RouteScribe.Example
