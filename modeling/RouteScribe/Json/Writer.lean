import RouteScribe.Json.Value
import RouteScribe.Number.Shortest
import RouteScribe.Text.Hex
import RouteScribe.Text.Quoted

/-!
# Writing values

`compact` writes a value on one line with all characters outside printable ASCII
escaped.  `pretty` writes sorted keys, two spaces of indentation per level, and
only the escapes that JSON demands.  `display` is the form of a value inside a
message.  A foreign literal has no JSON text, and an integer with too many digits
no text at all, so these fail on a value that holds one.
-/

namespace RouteScribe.Json

open RouteScribe.Number RouteScribe.Text

/-- The texts of the numbers that JSON proper cannot write. -/
def specialNumbers : SpecialNames where
  notANumber := "NaN"
  infinity := "Infinity"

/-- The escape of a code unit: a backslash, `u` and four hexadecimal digits. -/
def unitEscape (unit : Nat) : List Char :=
  '\\' :: 'u' :: toHex 4 unit

/-- The escapes of a character outside ASCII: one code unit, or two beyond the
basic plane. -/
def wideEscape (c : Char) : List Char :=
  let n := c.toNat
  if n < 0x10000 then unitEscape n
  else unitEscape (0xD800 + (n - 0x10000) / 0x400) ++ unitEscape (0xDC00 + (n - 0x10000) % 0x400)

/-- A character inside a string that is not to be left as it is. -/
def escapeJsonChar (c : Char) : List Char :=
  match c with
  | '"' => ['\\', '"']
  | '\\' => ['\\', '\\']
  | '\n' => ['\\', 'n']
  | '\r' => ['\\', 'r']
  | '\t' => ['\\', 't']
  | '\x08' => ['\\', 'b']
  | '\x0c' => ['\\', 'f']
  | other => wideEscape other

/-- Characters that the one-line form leaves alone. -/
def plainAscii (c : Char) : Bool :=
  0x20 ≤ c.toNat && c.toNat ≤ 0x7E && c != '"' && c != '\\'

/-- Characters that the indented form leaves alone. -/
def plainUnicode (c : Char) : Bool :=
  0x20 ≤ c.toNat && c != '"' && c != '\\'

/-- A string between double quotes. -/
def stringText (plain : Char → Bool) (text : String) : String :=
  .ofList ('"' :: text.toList.flatMap (fun c => if plain c then [c] else escapeJsonChar c) ++ ['"'])

def asciiString (text : String) : String :=
  stringText plainAscii text

/-- A text between square brackets. -/
def inBrackets (content : String) : String :=
  "[" ++ content ++ "]"

/-- A text between curly braces. -/
def inBraces (content : String) : String :=
  "\x7b" ++ content ++ "\x7d"

/-- The digits of an integer with its sign; `none` if they are too many. -/
def integerText? (n : Int) : Option String :=
  if isConvertible n then some (toString n) else none

namespace Value

mutual

def compact? : Value → Option String
  | .null => some "null"
  | .bool value => some (if value then "true" else "false")
  | .int value => integerText? value
  | .float value => some (value.text specialNumbers)
  | .str text => some (asciiString text)
  | .arr items => (compactItems? items).map fun texts => inBrackets (", ".intercalate texts)
  | .obj entries => (compactEntries? entries).map fun texts => inBraces (", ".intercalate texts)
  | .foreign _ => none

def compactItems? : List Value → Option (List String)
  | [] => some []
  | item :: items => do
      let text ← item.compact?
      let texts ← compactItems? items
      return text :: texts

def compactEntries? : List (String × Value) → Option (List String)
  | [] => some []
  | (key, value) :: entries => do
      let text ← value.compact?
      let texts ← compactEntries? entries
      return (asciiString key ++ ": " ++ text) :: texts

end

/-- A line break followed by two spaces for each level. -/
def newlineAt (level : Nat) : String :=
  .ofList ('\n' :: List.replicate (2 * level) ' ')

/-- Texts on lines of their own one level further in, separated by commas. -/
def block (level : Nat) (texts : List String) : String :=
  newlineAt (level + 1) ++ ("," ++ newlineAt (level + 1)).intercalate texts ++ newlineAt level

mutual

/-- The indented form of a value that starts on the given level, with its keys in
the order they have. -/
def indented? (level : Nat) : Value → Option String
  | .null => some "null"
  | .bool value => some (if value then "true" else "false")
  | .int value => integerText? value
  | .float value => some (value.text specialNumbers)
  | .str text => some (stringText plainUnicode text)
  | .arr items =>
      (indentedItems? (level + 1) items).map fun texts =>
        if texts.isEmpty then inBrackets "" else inBrackets (block level texts)
  | .obj entries =>
      (indentedEntries? (level + 1) entries).map fun texts =>
        if texts.isEmpty then inBraces "" else inBraces (block level texts)
  | .foreign _ => none

def indentedItems? (level : Nat) : List Value → Option (List String)
  | [] => some []
  | item :: items => do
      let text ← item.indented? level
      let texts ← indentedItems? level items
      return text :: texts

def indentedEntries? (level : Nat) : List (String × Value) → Option (List String)
  | [] => some []
  | (key, value) :: entries => do
      let text ← value.indented? level
      let texts ← indentedEntries? level entries
      return (stringText plainUnicode key ++ ": " ++ text) :: texts

end

/-- The indented form with sorted keys, which does not depend on the order in
which keys were entered. -/
def pretty? (value : Value) : Option String :=
  value.sortKeys.indented? 0

end Value

/-- The names of numbers without digits inside a message. -/
def displayNumbers : SpecialNames where
  notANumber := "nan"
  infinity := "inf"

/-- A foreign literal inside a message. -/
def Foreign.display : Foreign → String
  | .bytes content => quotedBytes content
  | .imaginary part => part.imaginaryText displayNumbers
  | .ellipsis => "Ellipsis"

namespace Value

mutual

/-- A value as it is shown inside a larger one in a message. -/
def display? : Value → Option String
  | .null => some "None"
  | .bool value => some (if value then "True" else "False")
  | .int value => integerText? value
  | .float value => some (value.text displayNumbers)
  | .str text => some (quoted text)
  | .arr items => (displayItems? items).map fun texts => inBrackets (", ".intercalate texts)
  | .obj entries => (displayEntries? entries).map fun texts => inBraces (", ".intercalate texts)
  | .foreign literal => some literal.display

def displayItems? : List Value → Option (List String)
  | [] => some []
  | item :: items => do
      let text ← item.display?
      let texts ← displayItems? items
      return text :: texts

def displayEntries? : List (String × Value) → Option (List String)
  | [] => some []
  | (key, value) :: entries => do
      let text ← value.display?
      let texts ← displayEntries? entries
      return (quoted key ++ ": " ++ text) :: texts

end

/-- A value as it is shown on its own: a string appears without quotes. -/
def displayPlain? : Value → Option String
  | .str text => some text
  | other => other.display?

end Value

end RouteScribe.Json
