import RouteScribe.Json.Value

/-!
# Configuration

A config says where the document goes, what stands in its header, which example
values to use, and which files and routing types to look at.
-/

namespace RouteScribe

open RouteScribe.Json RouteScribe.Number

namespace Config

/-- A number that is an integer or has a fractional part. -/
inductive Numeral where
  | int (value : Int)
  | float (value : Binary64)
  deriving DecidableEq, Repr

def Numeral.toValue : Numeral → Value
  | .int value => .int value
  | .float value => .float value

/-- Example values for primitives that have no example of their own. -/
structure Defaults where
  string : String := "abcd"
  number : Numeral := .int 0
  boolean : Bool := true
  /-- The key of the example entry of an open object. -/
  jsonKey : String := "key"
  deriving DecidableEq, Repr

/-- Example values by name, one table for payloads and one for parameters. -/
structure Examples where
  response : Table Value := []
  param : Table Value := []
  deriving BEq, Repr

end Config

open Config

structure Config where
  output : String
  host : Option String := none
  title : Option String := none
  description : Option String := none
  defaults : Defaults := {}
  examples : Examples := {}
  afterHook : Option String := none
  /-- The names of the types whose values are routing objects. -/
  routerTypes : List String := ["Router"]
  /-- Files whose path contains one of these texts are left out. -/
  exclude : List String := ["node_modules", ".venv", "site-packages"]
  deriving BEq, Repr

end RouteScribe
