import RouteScribe.Blueprint.Document
import RouteScribe.Comment.Basic
import RouteScribe.Route.Report
import RouteScribe.Route.Sighting
import RouteScribe.Text.Digit

/-!
# Documenting one route

The comment in front of a registration becomes the documentation of its route.  A
malformed tag leaves out the route, a type without a schema leaves out the tag
that names it, and either is reported where the tag stands.
-/

namespace RouteScribe.Route

open RouteScribe.Blueprint RouteScribe.Comment RouteScribe.Config RouteScribe.Json
open RouteScribe.Schema RouteScribe.Source RouteScribe.Text

/-- What the routes of a file are documented with. -/
structure Context where
  file : SourceFile
  types : TypeTable
  config : Config

/-- Why the documentation of a route ends early. -/
inductive RouteStop where
  /-- A tag is malformed, which has been reported; the route is left out. -/
  | leftOut
  | failed (error : ScanError)

/-- The documentation of a route in the making. -/
abbrev Documenting (α : Type) := Reported RouteStop α

namespace Context

variable (context : Context)

/-- A diagnostic about a line of the file, counted from zero. -/
def diagnostic (severity : Severity) (line : Nat) (message : String) : Diagnostic :=
  { severity, file := context.file.path.text, line, message }

def reportError {ε : Type} (line : Nat) (message : String) : Reported ε Unit :=
  .report (context.diagnostic .error line message)

end Context

/-- The number that decimal digits of any script denote.  Digits that are not
decimal are refused, and so are too many. -/
def readCode (text : String) : Except ScanError Nat :=
  let chars := text.toList
  let leading := chars.takeWhile fun c => (decimalValue? c).isSome
  if digitLimit < leading.length then .error (.tooManyDigits leading.length)
  else if leading.length < chars.length then .error (.badNumber text)
  else .ok ((chars.filterMap decimalValue?).foldl (fun value digit => value * 10 + digit) 0)

/-- A text that is not empty. -/
def nonEmpty? (text : String) : Option String :=
  if text = "" then none else some text

def isContentType (type : String) : Bool :=
  type.toList.contains '/'

def paramOf (config : Config) (place : ParamPlace) (tag : Tag) : Blueprint.Param :=
  { place
    name := tag.name
    type := (tag.type.bind nonEmpty?).getD "string"
    description := tag.description
    sample := Example.param config tag.name }

structure Typed where
  schema : Value
  sample : Value

/-- The schema of a type with an example; `none` if there is no such schema or
example, which is reported. -/
def typedOf (context : Context) (type : String) (line : Nat) : Documenting (Option Typed) :=
  match context.types.schemaOf type with
  | .error (.fault fault) => do
      context.reportError line
        ("Error: In generating schema for type " ++ type ++ ", " ++ fault.message ++ ".")
      return none
  | .error error => .fail (.failed (.type error))
  | .ok schema =>
      let document := schema.document
      match Example.payload context.config document with
      | .ok sample => return some ⟨document, sample⟩
      | .error (.unsupported kind shown) => do
          context.reportError line
            ("Error: " ++ Example.unsupportedMessage kind shown ++ ".")
          return none
      | .error error => .fail (.failed (.sample error))

/-- The response that a tag describes; `none` if its type has no schema. -/
def responseOf (context : Context) (commentLine : Nat) (tag : Tag) :
    Documenting (Option Response) := do
  let line := commentLine + tag.line
  if !isDigits tag.name.toList then
    context.reportError line ("Error: Response code '" ++ tag.name ++ "' should be a number.")
    .fail .leftOut
  else
    match readCode tag.name with
    | .error error => .fail (.failed error)
    | .ok code =>
        let written := tag.type.bind nonEmpty?
        let response (type : Option String) (body : Value) (schema : Option Value) : Response :=
          { code, condition := nonEmpty? tag.inline, type, schema
            body := ((nonEmpty? tag.continuation).map Value.str).getD body }
        match written.filter (!isContentType ·) with
        | none => return some (response written .null none)
        | some type =>
            match ← typedOf context type line with
            | none => return none
            | some typed =>
                return some (response (some "application/json") typed.sample (some typed.schema))

/-- The types that a body tag names: that of the data and that of the content.
The one with a slash is the content type. -/
structure BodyTypes where
  data : Option String := none
  content : Option String := none
  deriving DecidableEq, Repr

def BodyTypes.add (types : BodyTypes) (type : String) : BodyTypes :=
  if isContentType type then { types with content := some type }
  else { types with data := some type }

/-- What stands between the curly braces around a text. -/
def braced? (text : String) : Option String :=
  match text.toList with
  | '{' :: rest =>
      if rest.getLast? = some '}' then some (.ofList (trim rest.dropLast)) else none
  | _ => none

/-- The types of a body tag; `none` if a second one has no braces. -/
def bodyTypes? (tag : Tag) : Option BodyTypes :=
  let first : BodyTypes :=
    match tag.type.bind nonEmpty? with
    | some type => BodyTypes.add {} type
    | none => {}
  if tag.name = "" then some first else (braced? tag.name).map first.add

/-- The request body that a tag describes; `none` if its type has no schema. -/
def bodyOf (context : Context) (commentLine : Nat) (tag : Tag) :
    Documenting (Option RequestBody) := do
  let line := commentLine + tag.line
  match bodyTypes? tag with
  | none =>
      context.reportError line "Error: @body tag should have types surrounded in curly braces."
      .fail .leftOut
  | some types =>
      let body (sample : Value) (schema : Option Value) : RequestBody :=
        { type := types.content, schema
          body := ((nonEmpty? tag.description).map Value.str).getD sample }
      match types.data.bind nonEmpty? with
      | none => return some (body .null none)
      | some type =>
          match ← typedOf context type line with
          | none => return none
          | some typed => return some (body typed.sample (some typed.schema))

def singleBody (context : Context) (method path : String) (commentLine : Nat) :
    List Tag → Documenting (Option RequestBody)
  | [] => return none
  | [tag] => bodyOf context commentLine tag
  | _ :: second :: _ => do
      context.reportError (commentLine + second.line) "Error: Too many @body tags."
      .fail (.failed (.fatal (.severalBodies method path context.file.path.text)))

/-- The documentation of a route from its comment, which starts at some line. -/
def blockOf (context : Context) (method path : String) (commentLine : Nat)
    (comment : DocComment) : Documenting Block := do
  let pathParams := (comment.tagsOf "param").map (paramOf context.config .path)
  let queryParams := (comment.tagsOf "query").map (paramOf context.config .query)
  let responses ← Reported.forEach (responseOf context commentLine) (comment.tagsOf "response")
  let body ← singleBody context method path commentLine (comment.tagsOf "body")
  return {
    method, path
    title := comment.title
    description := comment.description
    params := pathParams ++ queryParams
    responses := responses.filterMap id
    body }

def commentOf (file : SourceFile) (start : NodeStart) : Option (Nat × DocComment) := do
  let leading ← file.leadingComment start
  let comment ← DocComment.parse? leading.text
  return (leading.line, comment)

/-- Documents a registration with a path.  A route without a comment, or with a
malformed tag, has no block; in either case there is a diagnostic. -/
def documentRoute (context : Context) (sighting : Sighting) (path : String) :
    Reported ScanError (Option Block) :=
  match commentOf context.file sighting.start with
  | none => do
      .report (context.diagnostic .warning (sighting.start.line - 1)
        ("Ignoring undocumented route " ++ sighting.method.toUpper ++ " " ++ path))
      return none
  | some (line, comment) =>
      let documented := blockOf context sighting.method path line comment
      { diagnostics := documented.diagnostics
        result :=
          match documented.result with
          | .ok block => .ok (some block)
          | .error .leftOut => .ok none
          | .error (.failed error) => .error error }

/-- Documents a registration.  Without a path there is a warning and no block. -/
def documentSighting (context : Context) (sighting : Sighting) :
    Reported ScanError (Option Block) :=
  match sighting.path with
  | some path => documentRoute context sighting path
  | none => do
      .report (context.diagnostic .warning (sighting.start.line - 1)
        "Skipping router using something other than a string literal for defining the path")
      return none

end RouteScribe.Route
