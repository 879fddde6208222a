import RouteScribe.Source.Escape
import RouteScribe.Source.Token.Number
import RouteScribe.Text.Identifier
import RouteScribe.Text.Line

/-!
# Splitting a text into tokens

The text is read character by character.  At the start of a line its
indentation is compared with that of the enclosing blocks, unless the line is
blank or a bracket is open.  Every step takes characters off the text or leaves
the start of a line, so the number of steps is bounded by the length of the
text.
-/

namespace RouteScribe.Source

open RouteScribe.Text

/-- The unread text with the place of its first character. -/
structure Reading where
  rest : List Char
  line : Nat
  column : Nat
  byte : Nat

namespace Reading

def position (reading : Reading) : Position :=
  ⟨reading.line, reading.column⟩

/-- Moves over a number of characters. -/
def advance : (count : Nat) → Reading → Reading
  | 0, reading => reading
  | count + 1, reading =>
      match reading.rest with
      | [] => reading
      | '\n' :: rest => advance count ⟨rest, reading.line + 1, 0, 0⟩
      | c :: rest =>
          advance count ⟨rest, reading.line, reading.column + 1, reading.byte + c.utf8Size⟩

end Reading

/-- The width of an indentation, once with tabs up to the next multiple of eight
columns and once with tabs of one column.  Both must lead to the same structure. -/
structure Indentation where
  wide : Nat
  narrow : Nat
  deriving DecidableEq, Repr

/-- What has been read of a text.  Tokens and comments are held with the last one
first, the indentations of the open blocks with the innermost first. -/
structure LexState where
  reading : Reading
  atLineStart : Bool
  /-- Whether the current line holds no token so far and gives no line end. -/
  isBlankLine : Bool
  openBrackets : Nat
  blocks : List Indentation
  tokens : List Token
  comments : List Comment

namespace LexState

def start (reading : Reading) : LexState :=
  { reading, atLineStart := true, isBlankLine := false, openBrackets := 0, blocks := [⟨0, 0⟩],
    tokens := [], comments := [] }

/-- Adds a token without characters of its own. -/
def addMark (state : LexState) (kind : TokenKind) : LexState :=
  let place := state.reading.position
  { state with
    tokens := { kind, start := place, stop := place, byte := state.reading.byte } :: state.tokens }

/-- Adds a token made of the next characters. -/
def addToken (state : LexState) (kind : TokenKind) (length : Nat) : LexState :=
  let after := state.reading.advance length
  { state with
    reading := after
    tokens :=
      { kind, start := state.reading.position, stop := after.position,
        byte := state.reading.byte } :: state.tokens }

/-- Moves over characters that are no token. -/
def skip (state : LexState) (count : Nat) : LexState :=
  { state with reading := state.reading.advance count }

end LexState

/-- The greatest number of blocks inside one another. -/
def blockLimit : Nat := 100

/-- The greatest number of open brackets. -/
def bracketLimit : Nat := 200

/-- Measures the indentation at the start of a text: its widths and the number of
characters it takes.  A form feed starts it anew.  A backslash joins the line
with the next one; an indentation before the first backslash counts for the
joined line.  `none` if a backslash does not join lines. -/
def measureIndent : (fuel : Nat) → Indentation → (joined taken : Nat) → List Char →
    Option (Indentation × Nat)
  | 0, _, _, _, _ => none
  | fuel + 1, width, joined, taken, text =>
      match text with
      | ' ' :: rest =>
          measureIndent fuel ⟨width.wide + 1, width.narrow + 1⟩ joined (taken + 1) rest
      | '\t' :: rest =>
          measureIndent fuel ⟨(width.wide / 8 + 1) * 8, width.narrow + 1⟩ joined (taken + 1) rest
      | '\x0c' :: rest => measureIndent fuel ⟨0, 0⟩ joined (taken + 1) rest
      | '\\' :: rest =>
          match rest with
          | '\n' :: more =>
              if more.isEmpty then none
              else
                measureIndent fuel width (if joined = 0 then width.wide else joined) (taken + 2)
                  more
          | _ => none
      | _ => some (if joined = 0 then width else ⟨joined, joined⟩, taken)

/-- Closes blocks until one has the indentation of the line; `none` if there is
no such block. -/
def closeBlocks (width : Indentation) : List Indentation → LexState → Option LexState
  | [], _ => none
  | block :: blocks, state =>
      if width.wide < block.wide then
        closeBlocks width blocks { state.addMark .dedent with blocks }
      else if width = block then some state
      else none

/-- Compares the indentation of a line with the open blocks. -/
def indentLine (state : LexState) (width : Indentation) : Option LexState :=
  match state.blocks with
  | [] => none
  | block :: _ =>
      if width.wide = block.wide then
        if width.narrow = block.narrow then some state else none
      else if block.wide < width.wide then
        if width.narrow ≤ block.narrow || blockLimit ≤ state.blocks.length then none
        else some { state.addMark .indent with blocks := width :: state.blocks }
      else closeBlocks width state.blocks state

def startLine (state : LexState) : Option LexState := do
  let text := state.reading.rest
  let (width, taken) ← measureIndent (text.length + 1) ⟨0, 0⟩ 0 0 text
  let state := { state.skip taken with atLineStart := false }
  match state.reading.rest with
  | [] | '\n' :: _ | '#' :: _ => return { state with isBlankLine := true }
  | _ =>
      let state := { state with isBlankLine := false }
      if state.openBrackets = 0 then indentLine state width else return state

/-- The marks of a string literal, if a text is made of such marks only. -/
def stringMarks? (text : List Char) : Option WrittenString :=
  let marks := text.map Char.toLower
  let plain : WrittenString :=
    { isRaw := false, isBytes := false, isFormatted := false, isMarked := false, opening := 0,
      body := [] }
  if marks = [] then some plain
  else if marks = ['u'] then some { plain with isMarked := text = ['u'] }
  else if marks = ['r'] then some { plain with isRaw := true }
  else if marks = ['b'] then some { plain with isBytes := true }
  else if marks = ['f'] then some { plain with isFormatted := true }
  else if marks = ['r', 'b'] ∨ marks = ['b', 'r'] then
    some { plain with isRaw := true, isBytes := true }
  else if marks = ['r', 'f'] ∨ marks = ['f', 'r'] then
    some { plain with isRaw := true, isFormatted := true }
  else none

/-- The characters before a closing sequence of quotes.  A backslash takes the
next character along; a line end is allowed between triple quotes only. -/
def untilQuotes (quotes : List Char) (isLong : Bool) : List Char → Option (List Char)
  | [] => none
  | '\\' :: c :: rest => (untilQuotes quotes isLong rest).map ('\\' :: c :: ·)
  | c :: rest =>
      if quotes.isPrefixOf (c :: rest) then some []
      else if c = '\n' && !isLong then none
      else (untilQuotes quotes isLong rest).map (c :: ·)

/-- Reads the quoted part of a string literal: its inside and the number of quotes on
either side. -/
def quotedPart? (text : List Char) : Option (List Char × Nat) :=
  match text with
  | quote :: second :: third :: rest =>
      if second = quote ∧ third = quote then
        (untilQuotes [quote, quote, quote] true rest).map (·, 3)
      else (untilQuotes [quote] false (second :: third :: rest)).map (·, 1)
  | quote :: rest => (untilQuotes [quote] false rest).map (·, 1)
  | [] => none

/-- Whether the value of a string literal is modelled here. -/
def WrittenString.isCovered (written : WrittenString) : Bool :=
  written.isRaw || written.isBytes || !hasUncoveredEscape written.body

/-- Symbols of the language, longer ones before their beginnings. -/
def symbols : List String :=
  ["**=", "//=", ">>=", "<<=", "...", "!=", "%=", "&=", "**", "*=", "+=", "-=", "->", "//", "/=",
    ":=", "<<", "<=", "==", ">=", ">>", "@=", "^=", "|=", "%", "&", "(", ")", "*", "+", ",", "-",
    ".", "/", ":", ";", "<", "=", ">", "@", "[", "]", "^", "\x7b", "|", "\x7d", "~"]

def bracketsAfter (symbol : String) (openBrackets : Nat) : Nat :=
  if ["(", "[", "\x7b"].contains symbol then openBrackets + 1
  else if [")", "]", "\x7d"].contains symbol then openBrackets - 1
  else openBrackets

def readSymbol (state : LexState) : Option LexState := do
  let symbol ← symbols.find? fun symbol => symbol.toList.isPrefixOf state.reading.rest
  let openBrackets := bracketsAfter symbol state.openBrackets
  if bracketLimit < openBrackets && state.openBrackets < openBrackets then none
  else return { state.addToken (.symbol symbol) symbol.length with openBrackets }

/-- Reads a name, or a string literal if the name is the marks of one. -/
def readWord (state : LexState) : Option LexState := do
  let word := state.reading.rest.takeWhile continuesName
  let after := state.reading.rest.drop word.length
  let marks := if after.head?.any fun c => c = '"' ∨ c = '\'' then stringMarks? word else none
  match marks with
  | some marks =>
      let (body, quotes) ← quotedPart? after
      let opening := word.length + quotes
      let written := { marks with opening, body }
      let kind := if written.isCovered then .string written else .uncovered
      return state.addToken kind (opening + body.length + quotes)
  | none =>
      if isName word then return state.addToken (.name (.ofList word)) word.length else none

/-- Reads one token, comment, line end or stretch of blanks. -/
def readNext (state : LexState) : Option LexState :=
  match state.reading.rest with
  | [] => some state
  | '#' :: rest =>
      let text := '#' :: rest.takeWhile (· != '\n')
      let comment : Comment := ⟨state.reading.position, .ofList text⟩
      some { state.skip text.length with comments := comment :: state.comments }
  | '\n' :: _ =>
      let state :=
        if state.isBlankLine || 0 < state.openBrackets then state else state.addMark .newline
      some { state.skip 1 with atLineStart := true }
  | '\\' :: rest =>
      match rest with
      | '\n' :: more => if more.isEmpty then none else some (state.skip 2)
      | _ => none
  | c :: rest =>
      if c = ' ' ∨ c = '\t' ∨ c = '\x0c' then some (state.skip 1)
      else if c.isDigit || (c = '.' && rest.head?.any Char.isDigit) then do
        let (kind, taken) ← readNumber? state.reading.rest
        return state.addToken kind taken
      else if continuesName c || c = '"' || c = '\'' then readWord state
      else readSymbol state

/-- Reads to the end of the text. -/
def readAll : (fuel : Nat) → LexState → Option LexState
  | 0, _ => none
  | fuel + 1, state =>
      if state.atLineStart then (startLine state).bind (readAll fuel)
      else if state.reading.rest.isEmpty then some state
      else (readNext state).bind (readAll fuel)

/-- Tokens and comments of a text, in order. -/
structure Lexed where
  tokens : List Token
  comments : List Comment

/-- Closes the open blocks at the end of the text. -/
def finishText (state : LexState) : Lexed :=
  let closed := (state.blocks.drop 1).foldl (fun state _ => state.addMark .dedent) state
  { tokens := (closed.addMark .finish).tokens.reverse, comments := state.comments.reverse }

def endLastLine (text : List Char) : List Char :=
  if text.isEmpty || text.getLast? = some '\n' then text else text ++ ['\n']

/-- Splits what is to be read into tokens and comments; `none` if some part of it is no
token. -/
def lexFrom? (reading : Reading) : Option Lexed :=
  (readAll (2 * reading.rest.length + 2) (.start reading)).map finishText

/-- The reading of a text from its start.  Line ends of all kinds count as line feeds. -/
def Reading.ofText (text : List Char) : Reading :=
  ⟨endLastLine (normalizeNewlines text), 1, 0, 0⟩

/-- Splits a text, which may hold no null character, into tokens and comments. -/
def lex? (text : List Char) : Option Lexed :=
  if text.contains '\x00' then none else lexFrom? (.ofText text)

end RouteScribe.Source
