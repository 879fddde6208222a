import RouteScribe.Json.Value

/-!
# Literals

The values that can be written down directly in source text.
-/

namespace RouteScribe.Source

open RouteScribe.Json RouteScribe.Number

/-- A whole number with no more digits than are converted to text. -/
structure Whole where
  value : Nat
  isShort : isConvertible value
  deriving DecidableEq, Repr

/-- A value written down in source text. -/
inductive Literal where
  | none
  | ellipsis
  | bool (value : Bool)
  | int (whole : Whole)
  | float (value : Binary64)
  | imaginary (part : Binary64)
  /-- A text; `marked` says that it was written with a leading `u`. -/
  | str (text : String) (marked : Bool)
  | bytes (content : List UInt8)
  deriving DecidableEq, Repr

namespace Literal

def text? : Literal → Option String
  | .str text _ => some text
  | _ => .none

def isImaginary : Literal → Bool
  | .imaginary _ => true
  | _ => false

/-- The value that a literal has outside the source. -/
def toValue : Literal → Value
  | .none => .null
  | .ellipsis => .foreign .ellipsis
  | .bool value => .bool value
  | .int whole => .int whole.value
  | .float value => .float value
  | .imaginary part => .foreign (.imaginary part)
  | .str text _ => .str text
  | .bytes content => .foreign (.bytes content)

end Literal

end RouteScribe.Source
