import RouteScribe.Json.Value
import RouteScribe.Text.Hex

/-!
# Reading values

A reader of JSON text that names the first fault and its position.  Beyond JSON
proper it accepts the numbers `NaN`, `Infinity` and `-Infinity`.  Of a repeated
key the last value counts, at the place of the first.
-/

namespace RouteScribe.Json

open RouteScribe.Number RouteScribe.Text

/-- What is wrong with a text that is no JSON. -/
inductive ReadFault where
  | byteOrderMark
  | extraData
  | expectedValue
  | expectedName
  | expectedColon
  | expectedComma
  | controlCharacter
  | unterminatedString
  | invalidEscape
  | invalidUnicodeEscape
  deriving DecidableEq, Repr

/-- Why a text could not be read: a fault at a character position, an integer with
more digits than are converted, or an escape of half a surrogate pair, which is no
character and so beyond the strings that are modelled here. -/
inductive ReadError where
  | fault (kind : ReadFault) (position : Nat)
  | tooManyDigits (count : Nat)
  | loneSurrogate
  deriving DecidableEq, Repr

def ReadFault.message : ReadFault → String
  | .byteOrderMark => "Unexpected UTF-8 BOM (decode using utf-8-sig)"
  | .extraData => "Extra data"
  | .expectedValue => "Expecting value"
  | .expectedName => "Expecting property name enclosed in double quotes"
  | .expectedColon => "Expecting ':' delimiter"
  | .expectedComma => "Expecting ',' delimiter"
  | .controlCharacter => "Invalid control character at"
  | .unterminatedString => "Unterminated string starting at"
  | .invalidEscape => "Invalid \\escape"
  | .invalidUnicodeEscape => "Invalid \\uXXXX escape"

def tooManyDigitsMessage (count : Nat) : String :=
  s!"Exceeds the limit ({digitLimit} digits) for integer string conversion: " ++
    s!"value has {count} digits; use sys.set_int_max_str_digits() to increase the limit"

/-- The report on an escape that stands for no character. -/
def loneSurrogateMessage : String :=
  "escape of a lone surrogate"

/-- The line, counted from one, and the column, counted from one, of a position. -/
def lineAndColumn (text : List Char) (position : Nat) : Nat × Nat :=
  let before := text.take position
  (before.count '\n' + 1, (before.reverse.takeWhile (· != '\n')).length + 1)

def ReadError.message (text : List Char) : ReadError → String
  | .fault kind position =>
      let (line, column) := lineAndColumn text position
      s!"{kind.message}: line {line} column {column} (char {position})"
  | .tooManyDigits count => tooManyDigitsMessage count
  | .loneSurrogate => loneSurrogateMessage

/-- The unread text with the position of its first character. -/
structure Cursor where
  rest : List Char
  position : Nat
  deriving Repr

abbrev Read (α : Type) := Cursor → Except ReadError (α × Cursor)

namespace Cursor

/-- Moves over a number of characters. -/
def advance (cursor : Cursor) (count : Nat) : Cursor :=
  ⟨cursor.rest.drop count, cursor.position + count⟩

/-- Reports a fault at the current position. -/
def fail {α : Type} (cursor : Cursor) (kind : ReadFault) : Except ReadError α :=
  .error (.fault kind cursor.position)

/-- Moves over the blank characters of JSON. -/
def skipBlank (cursor : Cursor) : Cursor :=
  cursor.advance (cursor.rest.takeWhile ([' ', '\t', '\n', '\r'].contains ·)).length

end Cursor

def simpleEscape? : Char → Option Char
  | '"' => some '"'
  | '\\' => some '\\'
  | '/' => some '/'
  | 'b' => some '\x08'
  | 'f' => some '\x0c'
  | 'n' => some '\n'
  | 'r' => some '\r'
  | 't' => some '\t'
  | _ => none

/-- The code unit written by four hexadecimal digits at the start of a text, which
has to go on after them. -/
def codeUnit? (text : List Char) : Option Nat :=
  if (text.drop 4).isEmpty then none else hexNumber? (text.take 4)

def isHighSurrogate (unit : Nat) : Bool :=
  0xD800 ≤ unit && unit < 0xDC00

def isLowSurrogate (unit : Nat) : Bool :=
  0xDC00 ≤ unit && unit < 0xE000

/-- What the code units of an escape stand for: a character and the number of
characters taken, or half a surrogate pair. -/
inductive UnitEscape where
  | character (c : Char) (taken : Nat)
  | half
  deriving DecidableEq, Repr

/-- The low half of a surrogate pair that is written at the start of a text. -/
def lowHalf? : List Char → Option Nat
  | '\\' :: 'u' :: more => (codeUnit? more).filter isLowSurrogate
  | _ => none

/-- Reads the code units of an escape whose digits start the text. -/
def unicodeEscape? (text : List Char) : Option UnitEscape :=
  (codeUnit? text).map fun unit =>
    if isHighSurrogate unit then
      match lowHalf? (text.drop 4) with
      | some low => .character (Char.ofNat (0x10000 + (unit - 0xD800) * 0x400 + (low - 0xDC00))) 10
      | none => .half
    else if isLowSurrogate unit then .half
    else .character (Char.ofNat unit) 4

/-- Reads the characters of a string up to its closing quote.  `opening` is the
position of the opening quote; the fuel bounds the characters left. -/
def readChars (opening : Nat) : (fuel : Nat) → Read (List Char)
  | 0, _ => .error (.fault .unterminatedString opening)
  | fuel + 1, cursor =>
      let continueWith (c : Char) (count : Nat) : Except ReadError (List Char × Cursor) :=
        match readChars opening fuel (cursor.advance count) with
        | .ok (text, after) => .ok (c :: text, after)
        | .error error => .error error
      match cursor.rest with
      | [] => .error (.fault .unterminatedString opening)
      | '"' :: _ => .ok ([], cursor.advance 1)
      | ['\\'] => .error (.fault .unterminatedString opening)
      | '\\' :: 'u' :: more =>
          match unicodeEscape? more with
          | some (.character c taken) => continueWith c (2 + taken)
          | some .half => .error .loneSurrogate
          | none => (cursor.advance 1).fail .invalidUnicodeEscape
      | '\\' :: escape :: _ =>
          match simpleEscape? escape with
          | some c => continueWith c 2
          | none => cursor.fail .invalidEscape
      | c :: _ => if c.toNat < 0x20 then cursor.fail .controlCharacter else continueWith c 1

/-- Reads the rest of a string whose opening quote has just been passed. -/
def readString : Read String := fun cursor =>
  match readChars (cursor.position - 1) (cursor.rest.length + 1) cursor with
  | .ok (text, after) => .ok (.ofList text, after)
  | .error error => .error error

/-- The whole part of a number: a zero alone, or digits that start with another
digit. -/
def wholePart (text : List Char) : List Char :=
  match text with
  | '0' :: _ => ['0']
  | _ => text.takeWhile Char.isDigit

/-- The fractional part with its point, if digits follow the point. -/
def fractionPart : List Char → List Char
  | '.' :: rest =>
      let digits := rest.takeWhile Char.isDigit
      if digits.isEmpty then [] else '.' :: digits
  | _ => []

/-- The exponent with its mark and sign, if digits follow them. -/
def exponentPart : List Char → List Char
  | mark :: rest =>
      if mark = 'e' ∨ mark = 'E' then
        let sign := rest.takeWhile (fun c => c = '-' ∨ c = '+') |>.take 1
        let digits := (rest.drop sign.length).takeWhile Char.isDigit
        if digits.isEmpty then [] else mark :: sign ++ digits
      else []
  | [] => []

/-- The power of ten that an exponent part stands for. -/
def exponentValue : List Char → Int
  | _ :: '-' :: digits => -(digitsValue digits : Int)
  | _ :: '+' :: digits => digitsValue digits
  | _ :: digits => digitsValue digits
  | [] => 0

def readNumber : Read Value := fun cursor =>
  let negative := cursor.rest.head? = some '-'
  let unsigned := if negative then cursor.rest.drop 1 else cursor.rest
  let whole := wholePart unsigned
  let fraction := fractionPart (unsigned.drop whole.length)
  let exponent := exponentPart (unsigned.drop (whole.length + fraction.length))
  let taken := (if negative then 1 else 0) + whole.length + fraction.length + exponent.length
  if whole.isEmpty then cursor.fail .expectedValue
  else if fraction.isEmpty ∧ exponent.isEmpty then
    if digitLimit < whole.length then .error (.tooManyDigits whole.length)
    else
      let magnitude : Int := digitsValue whole
      .ok (.int (if negative then -magnitude else magnitude), cursor.advance taken)
  else
    let number := Binary64.ofParts negative whole (fraction.drop 1) (exponentValue exponent)
    .ok (.float number, cursor.advance taken)

def wordValues : List (String × Value) :=
  [("null", .null), ("true", .bool true), ("false", .bool false), ("NaN", .float .notANumber),
    ("Infinity", .float (.infinity false)), ("-Infinity", .float (.infinity true))]

/-- Reads a word or a number. -/
def readScalar : Read Value := fun cursor =>
  match wordValues.find? fun (word, _) => word.toList.isPrefixOf cursor.rest with
  | some (word, value) => .ok (value, cursor.advance word.length)
  | none => readNumber cursor

/-- Reads the items of an array from the place of the next item on. -/
def readItems (readItem : Read Value) : (fuel : Nat) → Read (List Value)
  | 0, cursor => cursor.fail .expectedValue
  | fuel + 1, cursor => do
      let (item, after) ← readItem cursor
      let after := after.skipBlank
      match after.rest with
      | ']' :: _ => return ([item], after.advance 1)
      | ',' :: _ =>
          let (items, last) ← readItems readItem fuel (after.advance 1).skipBlank
          return (item :: items, last)
      | _ => after.fail .expectedComma

/-- Reads the entries of an object from the place of the next key on. -/
def readEntries (readItem : Read Value) : (fuel : Nat) → Read (List (String × Value))
  | 0, cursor => cursor.fail .expectedName
  | fuel + 1, cursor => do
      match cursor.rest with
      | '"' :: _ =>
          let (key, after) ← readString (cursor.advance 1)
          let after := after.skipBlank
          match after.rest with
          | ':' :: _ =>
              let (value, after) ← readItem (after.advance 1).skipBlank
              let after := after.skipBlank
              match after.rest with
              | '}' :: _ => return ([(key, value)], after.advance 1)
              | ',' :: _ =>
                  let (entries, last) ← readEntries readItem fuel (after.advance 1).skipBlank
                  return ((key, value) :: entries, last)
              | _ => after.fail .expectedComma
          | _ => after.fail .expectedColon
      | _ => cursor.fail .expectedName

/-- Reads a value nested at most as deep as the fuel says. -/
def readValue : (fuel : Nat) → Read Value
  | 0, cursor => cursor.fail .expectedValue
  | fuel + 1, cursor =>
      match cursor.rest with
      | '"' :: _ => do
          let (text, after) ← readString (cursor.advance 1)
          return (.str text, after)
      | '[' :: _ =>
          let inside := (cursor.advance 1).skipBlank
          match inside.rest with
          | ']' :: _ => .ok (.arr [], inside.advance 1)
          | _ => do
              let (items, after) ← readItems (readValue fuel) (inside.rest.length + 1) inside
              return (.arr items, after)
      | '{' :: _ =>
          let inside := (cursor.advance 1).skipBlank
          match inside.rest with
          | '}' :: _ => .ok (.obj [], inside.advance 1)
          | _ => do
              let (entries, after) ← readEntries (readValue fuel) (inside.rest.length + 1) inside
              return (.obj (Table.ofPairs entries), after)
      | _ => readScalar cursor

/-- Reads a whole text as one value with blank characters around it. -/
def read (text : List Char) : Except ReadError Value := do
  if text.head? = some '\uFEFF' then throw (.fault .byteOrderMark 0)
  let start : Cursor := ⟨text, 0⟩
  let (value, after) ← readValue (text.length + 1) start.skipBlank
  let last := after.skipBlank
  if last.rest.isEmpty then return value else last.fail .extraData

end RouteScribe.Json
