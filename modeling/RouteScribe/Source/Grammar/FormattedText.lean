import RouteScribe.Source.Escape
import RouteScribe.Source.Grammar.Basic
import RouteScribe.Source.Token.Lexer
import RouteScribe.Text.Blank

/-!
# Formatted texts

A formatted text holds fields in curly braces.  A field is an expression, which
may be followed by an equals sign that shows its text, a conversion, and a format
that may hold fields in turn.  Doubled braces stand for themselves.

A formatted text is first cut into pieces.  The expression of a field is then read
where it stands, so that its nodes have their places in the file.
-/

namespace RouteScribe.Source

open RouteScribe.Text

/-- A string literal with its place.  `inside` is the reading of the characters
between the quotes. -/
structure PlacedString where
  written : WrittenString
  inside : Reading

/-- The string literal that a token is.  Its marks and quotes stand on one line and take
a byte each. -/
def Token.placedString? (token : Token) : Option PlacedString :=
  match token.kind with
  | .string written =>
      some ⟨written, written.body, token.start.line, token.start.column + written.opening,
        token.byte + written.opening⟩
  | _ => none

/-- Text up to the next brace that is not doubled, and the text from that brace
on.  Inside a format braces are not doubled. -/
def literalRun (isRaw : Bool) (inFormat : Bool) :
    (fuel : Nat) → List Char → List Char × List Char
  | 0, text => ([], text)
  | fuel + 1, text =>
      let keep (taken : List Char) (rest : List Char) : List Char × List Char :=
        let (chars, after) := literalRun isRaw inFormat fuel rest
        (taken ++ chars, after)
      match text with
      | [] => ([], [])
      | '\\' :: rest =>
          if isRaw then keep ['\\'] rest
          else
            match namedLength? rest, rest with
            | some length, _ => keep ('\\' :: rest.take length) (rest.drop length)
            | none, '{' :: _ => keep ['\\'] rest
            | none, '}' :: _ => keep ['\\'] rest
            | none, c :: more => keep ['\\', c] more
            | none, [] => keep ['\\'] []
      | c :: rest =>
          if c = '{' ∨ c = '}' then
            match inFormat, rest with
            | false, second :: more =>
                if second = c then keep [c] more else ([], text)
            | _, _ => ([], text)
          else keep [c] rest

/-- What is open while the end of an expression is looked for. -/
structure FieldScan where
  quote : Option (Char × Bool)
  brackets : List Char

def closingOf : Char → Char
  | '(' => ')'
  | '[' => ']'
  | _ => '}'

/-- The expression at the start of a field and the text from its end on.  It ends
at a conversion, a format, an equals sign or the closing brace outside of strings
and brackets. -/
def fieldExpression : (fuel : Nat) → FieldScan → List Char → Option (List Char × List Char)
  | 0, _, _ => none
  | fuel + 1, scan, text =>
      let keep (taken : List Char) (scan : FieldScan) (rest : List Char) :=
        (fieldExpression fuel scan rest).map fun (chars, after) => (taken ++ chars, after)
      match text with
      | [] => none
      | '\\' :: _ => none
      | c :: rest =>
          match scan.quote with
          | some (quote, isLong) =>
              if c ≠ quote then keep [c] scan rest
              else if isLong then
                match rest with
                | second :: third :: more =>
                    if second = c ∧ third = c then keep [c, c, c] { scan with quote := none } more
                    else keep [c] scan rest
                | _ => keep [c] scan rest
              else keep [c] { scan with quote := none } rest
          | none =>
              if c = '"' ∨ c = '\'' then
                match rest with
                | second :: third :: more =>
                    if second = c ∧ third = c then
                      keep [c, c, c] { scan with quote := some (c, true) } more
                    else keep [c] { scan with quote := some (c, false) } rest
                | _ => keep [c] { scan with quote := some (c, false) } rest
              else if c = '(' ∨ c = '[' ∨ c = '{' then
                keep [c] { scan with brackets := closingOf c :: scan.brackets } rest
              else if c = '#' then none
              else if scan.brackets.isEmpty ∧ c ∈ ['!', ':', '}', '=', '<', '>'] then
                if c ∈ ['!', '=', '<', '>'] ∧ rest.head? = some '=' then
                  keep [c, '='] scan (rest.drop 1)
                else if c = '<' ∨ c = '>' then keep [c] scan rest
                else some ([], text)
              else if c = ')' ∨ c = ']' ∨ c = '}' then
                match scan.brackets with
                | closing :: brackets =>
                    if c = closing then keep [c] { scan with brackets } rest else none
                | [] => none
              else keep [c] scan rest

def isAsciiBlank (c : Char) : Bool :=
  c = ' ' || (0x09 ≤ c.toNat && c.toNat ≤ 0x0D)

/-- The equals sign after an expression with the blanks around it, and the text
after it. -/
def shownSign (text : List Char) : List Char × List Char :=
  match text with
  | '=' :: rest => ('=' :: rest.takeWhile isAsciiBlank, rest.dropWhile isAsciiBlank)
  | _ => ([], text)

/-- The conversion of a field; `none` if it is malformed. -/
def conversion? (text : List Char) : Option (Option Char × List Char) :=
  match text with
  | '!' :: c :: rest => if c = 's' ∨ c = 'r' ∨ c = 'a' then some (some c, rest) else none
  | ['!'] => none
  | _ => some (none, text)

/-! ### Pieces -/

/-- A piece of a formatted text: text with its escapes, or a field.  `value` is the reading
of the expression of the field in parentheses, and `shown` its text if that is to be shown
as well. -/
inductive FormatPiece where
  | text (chars : List Char)
  | field (value : Reading) (shown : List Char) (conversion : Option Char)
      (format : Option (List FormatPiece))

def Reading.upTo (reading : Reading) (rest : List Char) : Reading :=
  reading.advance (reading.rest.length - rest.length)

/-- A text in parentheses in the place of a brace and what follows it. -/
def Reading.parenthesized (brace : Reading) (text : List Char) : Reading :=
  { brace with rest := '(' :: text ++ [')', '\n'] }

/-- Cuts a formatted text into pieces.  At level zero the text is read to its end; a
format is read up to the brace that closes its field.  Formats nest at most two levels
deep. -/
def formatPieces? (isRaw : Bool) : (fuel level : Nat) → Reading →
    Option (List FormatPiece × Reading)
  | 0, _, _ => none
  | fuel + 1, level, body => do
      let (chars, after) := literalRun isRaw (0 < level) (body.rest.length + 1) body.rest
      let before := if chars.isEmpty then [] else [FormatPiece.text chars]
      let brace := body.upTo after
      match after with
      | [] => return (before, brace)
      | '}' :: _ => if level = 0 then none else return (before, brace)
      | _ :: inside =>
          if 2 ≤ level then none
          else
            let (written, rest) ← fieldExpression (inside.length + 1) ⟨none, []⟩ inside
            if written.all isBlank then none
            else
              let (sign, rest) := shownSign rest
              let (conversion, rest) ← conversion? rest
              let mark := brace.upTo rest
              let (format, last) ←
                match rest with
                | ':' :: _ =>
                    (formatPieces? isRaw fuel (level + 1) (mark.advance 1)).map
                      fun (pieces, last) => (some pieces, last)
                | _ => some (none, mark)
              match last.rest with
              | '}' :: _ =>
                  let shown := if sign.isEmpty then [] else written ++ sign
                  let conversion :=
                    if !sign.isEmpty && format.isNone && conversion.isNone then some 'r'
                    else conversion
                  let field :=
                    FormatPiece.field (brace.parenthesized written) shown conversion format
                  let (pieces, last) ← formatPieces? isRaw fuel level (last.advance 1)
                  return (before ++ field :: pieces, last)
              | _ => none

def PlacedString.pieces? (placed : PlacedString) : Option (List FormatPiece) :=
  if placed.written.isFormatted then
    (formatPieces? placed.written.isRaw (placed.inside.rest.length + 1) 0 placed.inside).map
      (·.1)
  else some [.text placed.inside.rest]

mutual

def FormatPiece.readings : FormatPiece → List Reading
  | .text _ => []
  | .field value _ _ format => value :: readingsOfFormat format

def readingsOfPieces : List FormatPiece → List Reading
  | [] => []
  | piece :: pieces => piece.readings ++ readingsOfPieces pieces

def readingsOfFormat : Option (List FormatPiece) → List Reading
  | none => []
  | some pieces => readingsOfPieces pieces

end

/-! ### Parts -/

def fieldValue? (rules : Rules) (value : Reading) : Option Expr := do
  let lexed ← lexFrom? value
  let (expr, rest) ← rules.starExpressions lexed.tokens
  if rest.map (·.kind) = [.newline, .finish] then return expr else none

/-- Joins neighbouring texts and drops empty ones. -/
def joinTexts : List TextPart → List TextPart
  | [] => []
  | .text content :: parts =>
      match joinTexts parts with
      | .text more :: others => .text (content ++ more) :: others
      | others => if content = "" then others else .text content :: others
  | part :: parts => part :: joinTexts parts

mutual

def FormatPiece.parts? (rules : Rules) (isRaw : Bool) : FormatPiece → Option (List TextPart)
  | .text chars => do
      let content ← unescapeText? isRaw chars
      return [.text (.ofList content)]
  | .field value shown conversion format => do
      let expr ← fieldValue? rules value
      let format ← partsOfFormat? rules isRaw format
      return [.text (.ofList shown), .field expr conversion format]

def partsOfPieces? (rules : Rules) (isRaw : Bool) : List FormatPiece → Option (List TextPart)
  | [] => some []
  | piece :: pieces => do
      let parts ← piece.parts? rules isRaw
      let others ← partsOfPieces? rules isRaw pieces
      return parts ++ others

def partsOfFormat? (rules : Rules) (isRaw : Bool) :
    Option (List FormatPiece) → Option (Option (List TextPart))
  | none => some none
  | some pieces => do
      let parts ← partsOfPieces? rules isRaw pieces
      return some (joinTexts parts)

end

def PlacedString.parts? (rules : Rules) (placed : PlacedString) : Option (List TextPart) := do
  partsOfPieces? rules placed.written.isRaw (← placed.pieces?)

/-- The expression of string literals that stand side by side.  Bytes cannot be
mixed with texts. -/
def joinStrings? (rules : Rules) (strings : List PlacedString) : Option Expr :=
  let written := strings.map (·.written)
  if written.all (·.isBytes) then do
    let contents ← written.mapM fun piece => unescapeBytes? piece.isRaw piece.body
    return .literal (.bytes contents.flatten)
  else if written.any (·.isBytes) then none
  else if written.any (·.isFormatted) then do
    let parts ← strings.mapM (·.parts? rules)
    return .formatted (joinTexts parts.flatten)
  else do
    let contents ← written.mapM fun piece => unescapeText? piece.isRaw piece.body
    return .literal (.str (.ofList contents.flatten) (written.head?.any (·.isMarked)))

end RouteScribe.Source
