import RouteScribe.Text.Line
import RouteScribe.Text.Percent

/-!
# Paths and parameter values

Route paths name their parameters with a colon; a blueprint puts them in curly
braces.  The path of a router and the path of a route are joined by their
segments.  Example values of parameters are percent-encoded.
-/

namespace RouteScribe.Blueprint

open RouteScribe.Text

/-- Writes the parameters of a path in braces: a colon with at least one further
character of its segment becomes a braced name that ends with the segment.
`inName` says that such a name is open. -/
def formatFrom : (inName : Bool) → List Char → List Char
  | inName, [] => if inName then ['}'] else []
  | true, c :: rest =>
      if c = '/' then '}' :: '/' :: formatFrom false rest else c :: formatFrom true rest
  | false, c :: rest =>
      if c = ':' ∧ rest.head?.any (· != '/') then '{' :: formatFrom true rest
      else c :: formatFrom false rest

/-- Writes the parameters of a path in braces. -/
def formatPath (path : String) : String :=
  .ofList (formatFrom false path.toList)

/-- Adds a segment to the normal form of the segments before it, which are held
with the last one first.  Empty segments and `.` add nothing; `..` takes back the
last segment, stays where there is none to take back, and is dropped at the root. -/
def pushSegment (rooted : Bool) (kept : List (List Char)) (segment : List Char) :
    List (List Char) :=
  if segment = [] ∨ segment = ['.'] then kept
  else if segment = ['.', '.'] then
    match kept with
    | [] => if rooted then [] else [segment]
    | last :: before => if last = ['.', '.'] then segment :: kept else before
  else segment :: kept

/-- The segments of a path in normal form. -/
def normalSegments (rooted : Bool) (path : List Char) : List (List Char) :=
  ((splitOnChar '/' path).foldl (pushSegment rooted) []).reverse

/-- The normal form of a path with at most one slash at its start: without a
trailing slash, and a dot where nothing is left. -/
def normalPath (path : List Char) : List Char :=
  let rooted := path.head? = some '/'
  let segments := joinWith '/' (normalSegments rooted path)
  if rooted then '/' :: segments else if segments.isEmpty then ['.'] else segments

def joinChars (leading path : List Char) : List Char :=
  let joined := leading ++ '/' :: path
  let normal := normalPath joined
  if joined.getLast? = some '/' ∧ normal ≠ ['/'] then normal ++ ['/'] else normal

/-- Joins the path of a router and the path of a route: repeated slashes and dot
segments are resolved, and a slash at the end is kept. -/
def joinPath (leading path : String) : String :=
  .ofList (joinChars leading.toList path.toList)

/-- Where a parameter stands in the address of a request. -/
inductive ParamPlace where
  | path
  | query
  deriving DecidableEq, Repr

/-- Characters that stay as they are in every part of an address. -/
def isUnreserved (c : Char) : Bool :=
  c.isAlphanum || "-_.!~*'()".contains c

/-- Characters that stay as they are in a parameter value.  A value in the path
also keeps the characters that structure an address. -/
def isKept : ParamPlace → Char → Bool
  | .query, c => isUnreserved c
  | .path, c => isUnreserved c || ";,/?:@&=+$#".contains c

/-- The example value of a parameter as it stands in an address. -/
def encodeParam (place : ParamPlace) (value : String) : String :=
  .ofList (percentEncode (isKept place) value.toList)

end RouteScribe.Blueprint
