import RouteScribe.Text.Hex

/-!
# Percent encoding

Every character outside a set of kept characters is written as its UTF-8 bytes,
each byte as a percent sign and two upper-case hexadecimal digits.
-/

namespace RouteScribe.Text

/-- A byte as a percent sign and two upper-case hexadecimal digits. -/
def percentByte (byte : UInt8) : List Char :=
  '%' :: (toHex 2 byte.toNat).map Char.toUpper

/-- A character as it stands in an encoded text. -/
def percentChar (keep : Char → Bool) (c : Char) : List Char :=
  if keep c then [c] else (String.utf8EncodeChar c).flatMap percentByte

/-- Encodes all characters of a text but the kept ones. -/
def percentEncode (keep : Char → Bool) (text : List Char) : List Char :=
  text.flatMap (percentChar keep)

end RouteScribe.Text
