import RouteScribe.Json.Reader
import RouteScribe.Number.Reader
import RouteScribe.Text.Line

/-!
# Outlines

An outline writes objects and arrays by indentation: an entry is a key with a colon
and its value, an item follows a dash, and a nested part is indented deeper than the
line that it belongs to.  A text in JSON is an outline, too.
-/

namespace RouteScribe.Logging

open RouteScribe.Json RouteScribe.Number RouteScribe.Text

structure OutlineLine where
  indent : Nat
  content : List Char

/-- A line without its comment, which stands at the start or follows a blank. -/
def withoutComment : (afterBlank : Bool) → List Char → List Char
  | _, [] => []
  | afterBlank, c :: rest =>
      if c = '#' && afterBlank then [] else c :: withoutComment (c = ' ' || c = '\t') rest

def outlineLine? (line : List Char) : Option OutlineLine :=
  let indent := (line.takeWhile (· = ' ')).length
  let content := trimEnd (withoutComment true (line.drop indent))
  if content.isEmpty || content = "---".toList then none else some ⟨indent, content⟩

def outlineWords : Table Value :=
  [("", .null), ("~", .null), ("null", .null), ("true", .bool true), ("yes", .bool true),
    ("on", .bool true), ("false", .bool false), ("no", .bool false), ("off", .bool false)]

/-- Whether a text is a non-empty run of decimal digits. -/
def isNumeral (text : List Char) : Bool :=
  !text.isEmpty && text.all Char.isDigit

/-- The number that a text without quotes denotes. -/
def outlineNumber? (text : List Char) : Option Value :=
  let (negative, digits) := signAndRest text
  let whole := digits.takeWhile (· != '.')
  if isNumeral digits then
    let magnitude : Int := digitsValue digits
    some (.int (if negative then -magnitude else magnitude))
  else if isNumeral whole && digits.contains '.' then (Binary64.ofText? text).map .float
  else none

/-- A text between single quotes, in which a quote is written twice. -/
def singleQuoted? : List Char → Option (List Char)
  | ['\''] => some []
  | '\'' :: '\'' :: rest => (singleQuoted? rest).map ('\'' :: ·)
  | c :: rest => if c = '\'' then none else (singleQuoted? rest).map (c :: ·)
  | [] => none

/-- The value of a scalar, or of an object or array on one line. -/
def outlineScalar? (text : List Char) : Option Value :=
  match text with
  | '\'' :: rest => (singleQuoted? rest).map fun inside => .str (.ofList inside)
  | c :: _ =>
      if "\"[\x7b".toList.contains c then (Json.read text).toOption
      else
        match outlineWords.get? (.ofList (text.map Char.toLower)), outlineNumber? text with
        | some value, _ => some value
        | none, some number => some number
        | none, none => some (.str (.ofList text))
  | [] => some .null

/-- The key and the rest of an entry; `none` if a line is no entry. -/
def keyAndRest? (content : List Char) : Option (String × List Char) :=
  match content with
  | '"' :: rest =>
      let key := rest.takeWhile (· != '"')
      match rest.drop (key.length + 1) with
      | ':' :: value => some (.ofList key, trimStart value)
      | _ => none
  | _ =>
      let key := content.takeWhile (· != ':')
      match content.drop key.length with
      | [':'] => some (.ofList (trimEnd key), [])
      | ':' :: ' ' :: value => some (.ofList (trimEnd key), trimStart value)
      | _ => none

/-- The rest of an item; `none` if a line is no item. -/
def itemRest? : List Char → Option (List Char)
  | ['-'] => some []
  | '-' :: ' ' :: rest => some (trimStart rest)
  | _ => none

/-- Whether a line starts a value that belongs to an entry at an indent. -/
def startsPart (indent : Nat) (line : OutlineLine) : Bool :=
  indent < line.indent || (indent = line.indent && (itemRest? line.content).isSome)

mutual

/-- The value that starts with the first of some lines, and the lines after it. -/
def readPart : (fuel : Nat) → List OutlineLine → Option (Value × List OutlineLine)
  | 0, _ => none
  | _, [] => some (.null, [])
  | fuel + 1, line :: lines =>
      if (itemRest? line.content).isSome then
        (readItems fuel line.indent (line :: lines)).map fun (items, rest) => (.arr items, rest)
      else if (keyAndRest? line.content).isSome then
        (readEntries fuel line.indent (line :: lines)).map fun (entries, rest) =>
          (.obj (Table.ofPairs entries), rest)
      else (outlineScalar? line.content).map (·, lines)
termination_by structural fuel => fuel

def readItems : (fuel indent : Nat) → List OutlineLine → Option (List Value × List OutlineLine)
  | 0, _, _ => none
  | _, _, [] => some ([], [])
  | fuel + 1, indent, line :: lines =>
      match (if line.indent = indent then itemRest? line.content else none) with
      | none => some ([], line :: lines)
      | some rest => do
          let inner : OutlineLine := ⟨line.indent + (line.content.length - rest.length), rest⟩
          let (value, lines) ←
            if rest.isEmpty then
              if lines.head?.any (indent < ·.indent) then readPart fuel lines
              else some (.null, lines)
            else if (keyAndRest? rest).isSome || (itemRest? rest).isSome then
              readPart fuel (inner :: lines)
            else (outlineScalar? rest).map (·, lines)
          let (values, lines) ← readItems fuel indent lines
          return (value :: values, lines)
termination_by structural fuel => fuel

def readEntries : (fuel indent : Nat) → List OutlineLine →
    Option (List (String × Value) × List OutlineLine)
  | 0, _, _ => none
  | _, _, [] => some ([], [])
  | fuel + 1, indent, line :: lines =>
      if line.indent ≠ indent then (if line.indent < indent then some ([], line :: lines) else none)
      else
        match keyAndRest? line.content with
        | none => none
        | some (key, rest) => do
            let (value, lines) ←
              if rest.isEmpty then
                if (lines.head?.map (startsPart indent)).getD false then readPart fuel lines
                else some (.null, lines)
              else (outlineScalar? rest).map (·, lines)
            let (entries, lines) ← readEntries fuel indent lines
            return ((key, value) :: entries, lines)
termination_by structural fuel => fuel

end

/-- The value of an outline; `none` if a text is not one. -/
def readOutline? (text : List Char) : Option Value :=
  match Json.read text with
  | .ok value => some value
  | .error _ =>
      let lines := (splitNewlines text).filterMap outlineLine?
      match readPart (4 * text.length + 4) lines with
      | some (value, []) => some value
      | _ => none

end RouteScribe.Logging
