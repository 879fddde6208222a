import RouteScribe.Text.Hex
import RouteScribe.Text.Printable

/-!
# Quoted text

Messages show a text between quotes.  Single quotes are used unless the text
holds a single quote and no double quote.  Backslashes, the quote itself and
characters without a visible form are escaped.
-/

namespace RouteScribe.Text

/-- The quote that goes around a text. -/
def quoteFor (text : List Char) : Char :=
  if text.contains '\'' && !text.contains '"' then '"' else '\''

def numericEscape (c : Char) : List Char :=
  let n := c.toNat
  if n < 0x100 then '\\' :: 'x' :: toHex 2 n
  else if n < 0x10000 then '\\' :: 'u' :: toHex 4 n
  else '\\' :: 'U' :: toHex 8 n

/-- A character as it stands between the given quotes. -/
def escapeChar (quote c : Char) : List Char :=
  if c = quote ∨ c = '\\' then ['\\', c]
  else if c = '\n' then ['\\', 'n']
  else if c = '\r' then ['\\', 'r']
  else if c = '\t' then ['\\', 't']
  else if isPrintable c then [c]
  else numericEscape c

def quotedChars (text : List Char) : List Char :=
  let quote := quoteFor text
  quote :: text.flatMap (escapeChar quote) ++ [quote]

def quoted (text : String) : String :=
  .ofList (quotedChars text.toList)

def escapeByte (quote : Char) (byte : UInt8) : List Char :=
  let c := Char.ofNat byte.toNat
  if byte < 0x80 then (if byte = 0x7F then numericEscape c else escapeChar quote c)
  else numericEscape c

/-- Bytes between quotes, marked by a leading `b`. -/
def quotedBytes (bytes : List UInt8) : String :=
  let quote := quoteFor (bytes.map fun byte => Char.ofNat byte.toNat)
  .ofList ('b' :: quote :: bytes.flatMap (escapeByte quote) ++ [quote])

end RouteScribe.Text
