import RouteScribe.Blueprint.Path
import RouteScribe.Json.Value

/-!
# Route documentation

What is known about the routes of a program once its comments have been read.  A
router holds its routes grouped by path, and a route is documented by one block
for each method registered on its path.  All lists are in order of discovery.
-/

namespace RouteScribe.Blueprint

open RouteScribe.Json

/-- A parameter in the path or in the query of an address. -/
structure Param where
  place : ParamPlace
  name : String
  type : String
  description : String
  sample : String
  deriving DecidableEq, Repr

structure Response where
  code : Int
  /-- When the response is given. -/
  condition : Option String
  /-- The content type. -/
  type : Option String
  /-- The payload, null if there is none. -/
  body : Value
  schema : Option Value
  deriving BEq, Repr

structure RequestBody where
  /-- The content type. -/
  type : Option String
  /-- The payload, null if there is none. -/
  body : Value
  schema : Option Value
  deriving BEq, Repr

/-- The documentation of one method on one path, relative to the router's path. -/
structure Block where
  method : String
  path : String
  title : String
  description : String
  params : List Param
  responses : List Response
  body : Option RequestBody
  deriving BEq, Repr

/-- All methods registered on one path. -/
structure Group where
  path : String
  methods : List Block
  deriving BEq, Repr

/-- The documentation of one routing object. -/
structure Router where
  path : String
  title : String
  description : Option String
  routes : List Group
  deriving BEq, Repr

end RouteScribe.Blueprint
