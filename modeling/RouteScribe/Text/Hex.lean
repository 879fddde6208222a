/-!
# Hexadecimal digits

Escapes and encoded bytes write a code point or a byte as a fixed number of
hexadecimal digits.
-/

namespace RouteScribe.Text

/-- The lower-case hexadecimal digit of a number below sixteen. -/
def hexDigit (n : Nat) : Char :=
  if n < 10 then Char.ofNat ('0'.toNat + n) else Char.ofNat ('a'.toNat + (n - 10))

/-- The last `width` hexadecimal digits of a number, most significant first. -/
def toHex : (width : Nat) → (n : Nat) → List Char
  | 0, _ => []
  | width + 1, n => toHex width (n / 16) ++ [hexDigit (n % 16)]

/-- The value of a hexadecimal digit of either case. -/
def hexValue? (c : Char) : Option Nat :=
  if '0' ≤ c ∧ c ≤ '9' then some (c.toNat - '0'.toNat)
  else if 'a' ≤ c ∧ c ≤ 'f' then some (c.toNat - 'a'.toNat + 10)
  else if 'A' ≤ c ∧ c ≤ 'F' then some (c.toNat - 'A'.toNat + 10)
  else none

/-- The number that a run of hexadecimal digits denotes; `none` if some character
is no such digit. -/
def hexNumber? (digits : List Char) : Option Nat :=
  digits.foldlM (fun value c => (hexValue? c).map (value * 16 + ·)) 0

/-- The bytes that pairs of hexadecimal digits denote. -/
def hexBytes? : List Char → Option (List UInt8)
  | [] => some []
  | [_] => none
  | high :: low :: rest => do
      let value ← hexNumber? [high, low]
      let bytes ← hexBytes? rest
      return value.toUInt8 :: bytes

/-- Each byte as two lower-case hexadecimal digits. -/
def bytesToHex (bytes : List UInt8) : List Char :=
  bytes.flatMap fun byte => toHex 2 byte.toNat

end RouteScribe.Text
