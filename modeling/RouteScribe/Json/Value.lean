import RouteScribe.Number.Binary64
import RouteScribe.Table

/-!
# JSON values

Configs, schemas, examples and payloads are JSON values.  Objects keep the order
of their keys, and integers are kept apart from numbers with a fractional part.
A literal of the analysed source that has no JSON form can also turn up among
the members of an enumeration; it is carried along as a foreign value.
-/

namespace RouteScribe.Json

open RouteScribe.Number

/-- The greatest number of digits of an integer that is converted from or to text. -/
def digitLimit : Nat := 4300

/-- Whether an integer has no more digits than are converted. -/
def isConvertible (n : Int) : Bool :=
  (Nat.toDigits 10 n.natAbs).length ≤ digitLimit

/-- A literal that JSON has no form for. -/
inductive Foreign where
  | bytes (content : List UInt8)
  | imaginary (part : Binary64)
  | ellipsis
  deriving DecidableEq, Repr

/-- A JSON value, or a foreign literal in the place of one. -/
inductive Value where
  | null
  | bool (value : Bool)
  | int (value : Int)
  | float (value : Binary64)
  | str (value : String)
  | arr (items : List Value)
  | obj (entries : List (String × Value))
  | foreign (literal : Foreign)
  deriving Repr, BEq, Inhabited

namespace Value

/-- The value of a key; `none` also for a value that is no object. -/
def get? (value : Value) (key : String) : Option Value :=
  match value with
  | .obj entries => Table.get? entries key
  | _ => none

def asString? : Value → Option String
  | .str text => some text
  | _ => none

def asObject? : Value → Option (Table Value)
  | .obj entries => some entries
  | _ => none

def asArray? : Value → Option (List Value)
  | .arr items => some items
  | _ => none

/-- The values that count as absent where a value is optional: null, false, zero
and everything empty. -/
def isFalsy : Value → Bool
  | .null => true
  | .bool value => !value
  | .int value => value = 0
  | .float (.finite _ significand _) => significand = 0
  | .float _ => false
  | .str text => text.isEmpty
  | .arr items => items.isEmpty
  | .obj entries => entries.isEmpty
  | .foreign (.bytes content) => content.isEmpty
  | .foreign (.imaginary (.finite _ significand _)) => significand = 0
  | .foreign _ => false

def strings (texts : List String) : Value :=
  .arr (texts.map .str)

/-- Ascending order of keys by code point. -/
def keyLe (left right : String × Value) : Bool :=
  !(right.1 < left.1)

mutual

/-- The value with the keys of every object in ascending order. -/
def sortKeys : Value → Value
  | .arr items => .arr (sortKeysItems items)
  | .obj entries => .obj ((sortKeysEntries entries).mergeSort keyLe)
  | other => other

def sortKeysItems : List Value → List Value
  | [] => []
  | item :: items => item.sortKeys :: sortKeysItems items

def sortKeysEntries : List (String × Value) → List (String × Value)
  | [] => []
  | (key, value) :: entries => (key, value.sortKeys) :: sortKeysEntries entries

end

end Value

end RouteScribe.Json
