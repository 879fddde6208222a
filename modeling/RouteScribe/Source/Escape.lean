import RouteScribe.Text.Hex

/-!
# Escapes in string literals

A backslash in a string literal starts an escape.  A backslash before a
character that forms no escape stands for itself.
-/

namespace RouteScribe.Source

open RouteScribe.Text

def letterEscape? : Char → Option Char
  | '\\' => some '\\'
  | '\'' => some '\''
  | '"' => some '"'
  | 'a' => some '\x07'
  | 'b' => some '\x08'
  | 'f' => some '\x0c'
  | 'n' => some '\n'
  | 'r' => some '\r'
  | 't' => some '\t'
  | 'v' => some '\x0b'
  | _ => none

def isOctal (c : Char) : Bool :=
  '0' ≤ c && c ≤ '7'

/-- The octal digits at the start of a text, at most three. -/
def octalDigits (text : List Char) : List Char :=
  (text.take 3).takeWhile isOctal

def octalValue (digits : List Char) : Nat :=
  digits.foldl (fun value c => value * 8 + (c.toNat - '0'.toNat)) 0

/-- The number written by exactly `count` hexadecimal digits at the start of a
text. -/
def hexPrefix? (count : Nat) (text : List Char) : Option Nat :=
  let digits := text.take count
  if digits.length = count then hexNumber? digits else none

/-- Whether a code point is half a surrogate pair. -/
def isSurrogate (code : Nat) : Bool :=
  0xD800 ≤ code && code < 0xE000

/-- The character of a code point; there is none beyond the last one. -/
def charOfCode? (code : Nat) : Option Char :=
  if 0x110000 ≤ code || isSurrogate code then none else some (Char.ofNat code)

/-- The length of a named character escape after its backslash. -/
def namedLength? (text : List Char) : Option Nat :=
  match text with
  | 'N' :: '{' :: rest =>
      let name := rest.takeWhile (· != '}')
      if name.isEmpty || name.length = rest.length then none else some (name.length + 3)
  | _ => none

/-- Whether the escape after a backslash stands for a character by its name, or for half
a surrogate pair, which is no character. -/
def isUncoveredEscape (text : List Char) : Bool :=
  match text with
  | 'u' :: rest => (hexPrefix? 4 rest).any isSurrogate
  | 'U' :: rest => (hexPrefix? 8 rest).any isSurrogate
  | 'N' :: _ => (namedLength? text).isSome
  | _ => false

/-- Whether a text has an escape that is not covered. -/
def hasUncoveredEscape : List Char → Bool
  | [] => false
  | '\\' :: c :: rest => isUncoveredEscape (c :: rest) || hasUncoveredEscape rest
  | _ :: rest => hasUncoveredEscape rest

/-- Reads the escape after a backslash: the characters it stands for and the
number of characters it takes.  A backslash at the end stands for itself.  `none`
if the escape is malformed or not covered. -/
def readEscape? (inText : Bool) (text : List Char) : Option (List Char × Nat) :=
  match text with
  | [] => some (['\\'], 0)
  | c :: rest =>
      if c = '\n' then some ([], 1)
      else if isOctal c then
        let digits := octalDigits text
        let code := octalValue digits
        some ([Char.ofNat (if inText then code else code % 256)], digits.length)
      else if c = 'x' then (hexPrefix? 2 rest).map fun code => ([Char.ofNat code], 3)
      else if inText && c = 'u' then do
        let char ← charOfCode? (← hexPrefix? 4 rest)
        return ([char], 5)
      else if inText && c = 'U' then do
        let char ← charOfCode? (← hexPrefix? 8 rest)
        return ([char], 9)
      else if inText && c = 'N' then none
      else
        match letterEscape? c with
        | some char => some ([char], 1)
        | none => some (['\\', c], 1)

/-- Replaces the escapes of a text; the first `skip` characters belong to an
escape that has been read already. -/
def unescapeFrom (inText : Bool) : (skip : Nat) → List Char → Option (List Char)
  | _, [] => some []
  | skip + 1, _ :: rest => unescapeFrom inText skip rest
  | 0, c :: rest =>
      if c = '\\' then do
        let (chars, taken) ← readEscape? inText rest
        let others ← unescapeFrom inText taken rest
        return chars ++ others
      else (unescapeFrom inText 0 rest).map (c :: ·)

/-- The characters of a string literal. -/
def unescapeText? (isRaw : Bool) (body : List Char) : Option (List Char) :=
  if isRaw then some body else unescapeFrom true 0 body

/-- The bytes of a bytes literal, whose characters must be ASCII. -/
def unescapeBytes? (isRaw : Bool) (body : List Char) : Option (List UInt8) := do
  if body.any (0x80 ≤ ·.toNat) then none
  else
    let chars ← if isRaw then some body else unescapeFrom false 0 body
    return chars.map fun c => c.toNat.toUInt8

end RouteScribe.Source
