import RouteScribe.Text.Line

/-!
# File paths

A path is a root, which may be empty, with a list of parts.  Empty parts and
single dots vanish when a path is read, double dots stay.  Exactly two leading
slashes form a root of their own.
-/

namespace RouteScribe.Project

open RouteScribe.Text

structure Path where
  root : String
  parts : List String
  deriving DecidableEq, Repr, Inhabited

namespace Path

def ofString (text : String) : Path :=
  let slashes := (text.toList.takeWhile (· = '/')).length
  let root := if slashes = 0 then "" else if slashes = 2 then "//" else "/"
  let pieces := (splitOnChar '/' text.toList).map String.ofList
  { root, parts := pieces.filter fun piece => piece ≠ "" ∧ piece ≠ "." }

/-- The text of a path; a path without parts is a dot. -/
def text (path : Path) : String :=
  let body := "/".intercalate path.parts
  if path.root = "" ∧ path.parts = [] then "." else path.root ++ body

def allParts (path : Path) : List String :=
  if path.root = "" then path.parts else path.root :: path.parts

def child (path : Path) (name : String) : Path :=
  { path with parts := path.parts ++ [name] }

def parent (path : Path) : Path :=
  { path with parts := path.parts.dropLast }

/-- The last part of a path, empty if there is none. -/
def name (path : Path) : String :=
  path.parts.getLast?.getD ""

def hasNull (path : Path) : Bool :=
  path.parts.any (·.toList.contains '\x00')

/-- The path in the form in which files are shown. -/
def normalize (text : String) : String :=
  (ofString text).text

/-- Orders lists of parts by their first difference. -/
def partsLe : List String → List String → Bool
  | [], _ => true
  | _ :: _, [] => false
  | left :: lefts, right :: rights =>
      if left = right then partsLe lefts rights else decide (left < right)

def le (left right : Path) : Bool :=
  partsLe left.allParts right.allParts

end Path

end RouteScribe.Project
