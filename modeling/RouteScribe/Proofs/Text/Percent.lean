import Mathlib.Data.List.Basic
import RouteScribe.Proofs.Text.Utf8
import RouteScribe.Text.Percent

/-!
# Percent-encoded texts

An encoded text is read back: a percent sign with two hexadecimal digits is a byte, any other
character stands for its own bytes, and the bytes are decoded.  This gives back every text, as
long as the percent sign itself is not kept.

Addresses are also encoded from the code units of a text in UTF-16, where characters beyond
the first plane are pairs of surrogates.  Both ways come to the same.
-/

namespace RouteScribe.Text

/-! ### Upper-case digits -/

/-- The upper-case hexadecimal digits in order. -/
def upperHex : List Char :=
  ['0', '1', '2', '3', '4', '5', '6', '7', '8', '9', 'A', 'B', 'C', 'D', 'E', 'F']

/-- A byte by its value, as a percent sign and two upper-case digits. -/
def escapedOctet (octet : Nat) : List Char :=
  ['%', upperHex.getD (octet / 16) '0', upperHex.getD (octet % 16) '0']

theorem toUpper_hexDigit {n : Nat} (hn : n < 16) :
    (hexDigit n).toUpper = upperHex.getD n '0' := by
  revert n
  decide

theorem hexValue?_upperHex {n : Nat} (hn : n < 16) : hexValue? (upperHex.getD n '0') = some n := by
  revert n
  decide

theorem upperHex_mem {n : Nat} (hn : n < 16) : upperHex.getD n '0' ∈ upperHex := by
  revert n
  decide

theorem percentByte_eq (byte : UInt8) : percentByte byte = escapedOctet byte.toNat := by
  have hbyte : byte.toNat < 256 := byte.toNat_lt
  have hhigh : byte.toNat / 16 % 16 = byte.toNat / 16 := by omega
  simp only [percentByte, toHex, List.nil_append, List.map_cons, List.map_nil,
    List.singleton_append, hhigh]
  rw [toUpper_hexDigit (by omega), toUpper_hexDigit (by omega)]
  rfl

theorem percentEncode_cons (keep : Char → Bool) (c : Char) (text : List Char) :
    percentEncode keep (c :: text) = percentChar keep c ++ percentEncode keep text :=
  List.flatMap_cons

/-! ### Reading back -/

/-- The bytes that an encoded text stands for. -/
def percentBytes? : List Char → Option (List UInt8)
  | [] => some []
  | c :: rest =>
      if c = '%' then
        match rest with
        | high :: low :: rest => do
            let value ← hexNumber? [high, low]
            let bytes ← percentBytes? rest
            return value.toUInt8 :: bytes
        | _ => none
      else (percentBytes? rest).map (String.utf8EncodeChar c ++ ·)

/-- The text that an encoded text stands for. -/
def percentDecode? (text : List Char) : Option (List Char) :=
  (percentBytes? text).bind fun bytes => (Utf8.decode bytes).toOption

theorem percentBytes?_cons_of_ne {c : Char} (hc : c ≠ '%') (rest : List Char) :
    percentBytes? (c :: rest) = (percentBytes? rest).map (String.utf8EncodeChar c ++ ·) := by
  rw [percentBytes?.eq_def]
  simp only [hc, if_false]

/-- An escaped byte is read back in front of any rest. -/
theorem percentBytes?_percentByte (byte : UInt8) (rest : List Char) :
    percentBytes? (percentByte byte ++ rest) = (percentBytes? rest).map (byte :: ·) := by
  have hbyte : byte.toNat < 256 := byte.toNat_lt
  have hnumber : hexNumber? [upperHex.getD (byte.toNat / 16) '0',
      upperHex.getD (byte.toNat % 16) '0'] = some byte.toNat := by
    simp only [hexNumber?, List.foldlM_cons, List.foldlM_nil,
      hexValue?_upperHex (show byte.toNat / 16 < 16 by omega),
      hexValue?_upperHex (show byte.toNat % 16 < 16 by omega)]
    exact congrArg some (show (0 * 16 + byte.toNat / 16) * 16 + byte.toNat % 16 = _ by omega)
  rw [percentByte_eq, escapedOctet]
  simp only [List.cons_append, List.nil_append, percentBytes?, hnumber, if_true]
  cases percentBytes? rest with
  | none => rfl
  | some bytes => simp

theorem percentBytes?_bytes (bytes : List UInt8) (rest : List Char) :
    percentBytes? (bytes.flatMap percentByte ++ rest) = (percentBytes? rest).map (bytes ++ ·) := by
  induction bytes with
  | nil => simp
  | cons byte bytes ih =>
      rw [List.flatMap_cons, List.append_assoc, percentBytes?_percentByte, ih, Option.map_map]
      rfl

/-- An escaped character is read back as its bytes. -/
theorem percentBytes?_percentChar {keep : Char → Bool} (hpercent : keep '%' = false) (c : Char)
    (rest : List Char) :
    percentBytes? (percentChar keep c ++ rest) =
      (percentBytes? rest).map (String.utf8EncodeChar c ++ ·) := by
  unfold percentChar
  split
  · rename_i hkeep
    have hc : c ≠ '%' := by
      rintro rfl
      rw [hpercent] at hkeep
      cases hkeep
    rw [List.singleton_append, percentBytes?_cons_of_ne hc]
  · exact percentBytes?_bytes (String.utf8EncodeChar c) rest

/-- An encoded text stands for the bytes of the text. -/
theorem percentBytes?_percentEncode {keep : Char → Bool} (hpercent : keep '%' = false)
    (text : List Char) : percentBytes? (percentEncode keep text) = some (Utf8.encode text) := by
  induction text with
  | nil => rfl
  | cons c text ih =>
      rw [percentEncode_cons, percentBytes?_percentChar hpercent, ih]
      rfl

theorem percentDecode?_percentEncode {keep : Char → Bool} (hpercent : keep '%' = false)
    (text : List Char) : percentDecode? (percentEncode keep text) = some text := by
  rw [percentDecode?, percentBytes?_percentEncode hpercent, Option.bind_some, Utf8.decode_encode]
  rfl

/-! ### The form of an encoded text -/

/-- A text of allowed characters and of bytes that are written with upper-case digits. -/
inductive Escaped (allowed : List Char) : List Char → Prop where
  | nil : Escaped allowed []
  | allowed {c : Char} {rest : List Char} (hc : c ∈ allowed) (hrest : Escaped allowed rest) :
      Escaped allowed (c :: rest)
  | byte {high low : Char} {rest : List Char} (hhigh : high ∈ upperHex) (hlow : low ∈ upperHex)
      (hrest : Escaped allowed rest) : Escaped allowed ('%' :: high :: low :: rest)

variable {allowed : List Char}

theorem escaped_bytes (bytes : List UInt8) {rest : List Char} (hrest : Escaped allowed rest) :
    Escaped allowed (bytes.flatMap percentByte ++ rest) := by
  induction bytes with
  | nil => exact hrest
  | cons byte bytes ih =>
      have hbyte : byte.toNat < 256 := byte.toNat_lt
      rw [List.flatMap_cons, List.append_assoc, percentByte_eq]
      exact .byte (upperHex_mem (by omega)) (upperHex_mem (by omega)) ih

theorem escaped_percentEncode {keep : Char → Bool} (hkeep : ∀ c, keep c → c ∈ allowed)
    (text : List Char) : Escaped allowed (percentEncode keep text) := by
  induction text with
  | nil => exact .nil
  | cons c text ih =>
      rw [percentEncode_cons, percentChar]
      split
      · exact .allowed (hkeep c ‹_›) ih
      · exact escaped_bytes (String.utf8EncodeChar c) ih

/-- A character is left as it is exactly if it is kept. -/
theorem percentChar_eq_self_iff {keep : Char → Bool} {c : Char} :
    percentChar keep c = [c] ↔ keep c := by
  unfold percentChar
  split
  · simpa
  · rename_i hkeep
    refine iff_of_false (fun hself => ?_) hkeep
    -- Each byte takes three characters.
    obtain ⟨first, more, hbytes, -⟩ := Utf8.readChar_utf8EncodeChar c
    have hlength := congrArg List.length hself
    rw [hbytes, List.flatMap_cons, percentByte_eq] at hlength
    simp [escapedOctet] at hlength

/-! ### Code units -/

def codeUnits (c : Char) : List Nat :=
  if c.toNat < 0x10000 then [c.toNat]
  else [0xD800 + (c.toNat - 0x10000) / 0x400, 0xDC00 + (c.toNat - 0x10000) % 0x400]

/-- A code point by its octets, each of them escaped. -/
def escapedPoint (point : Nat) : List Char :=
  (Utf8.octets point).flatMap escapedOctet

/-- Encodes code units from the first to the last.  A unit of the unescaped set is copied;
else the code point that starts with it is written by its octets.  A surrogate that stands
alone cannot be encoded. -/
def encodeUnits? (unescaped : List Char) : List Nat → Option (List Char)
  | [] => some []
  | unit :: rest =>
      match unescaped.find? (·.toNat = unit) with
      | some c => (encodeUnits? unescaped rest).map (c :: ·)
      | none =>
          if 0xD800 ≤ unit ∧ unit < 0xDC00 then
            match rest with
            | [] => none
            | low :: rest =>
                if 0xDC00 ≤ low ∧ low < 0xE000 then
                  (encodeUnits? unescaped rest).map
                    (escapedPoint (0x10000 + (unit - 0xD800) * 0x400 + (low - 0xDC00)) ++ ·)
                else none
          else if 0xDC00 ≤ unit ∧ unit < 0xE000 then none
          else (encodeUnits? unescaped rest).map (escapedPoint unit ++ ·)

theorem escapedPoint_toNat (c : Char) :
    escapedPoint c.toNat = (String.utf8EncodeChar c).flatMap percentByte := by
  rw [escapedPoint, ← Utf8.toNat_utf8EncodeChar, List.flatMap_map]
  congr 1
  funext byte
  exact (percentByte_eq byte).symm

variable {unescaped : List Char}

theorem find?_toNat_of_mem {c : Char} (hc : c ∈ unescaped) :
    unescaped.find? (·.toNat = c.toNat) = some c := by
  have hsome : (unescaped.find? (·.toNat = c.toNat)).isSome :=
    List.find?_isSome.mpr ⟨c, hc, by simp⟩
  obtain ⟨found, hfound⟩ := Option.isSome_iff_exists.mp hsome
  have hcode : found.toNat = c.toNat := by simpa using List.find?_some hfound
  rw [hfound, Char.toNat_inj.mp hcode]

theorem find?_toNat_eq_none {unit : Nat} (hunit : ∀ c ∈ unescaped, c.toNat ≠ unit) :
    unescaped.find? (·.toNat = unit) = none := by
  rw [List.find?_eq_none]
  simpa using hunit

section Units

variable {keep : Char → Bool} (hkeep : ∀ c, keep c ↔ c ∈ unescaped)
  (hplane : ∀ c ∈ unescaped, c.toNat < 0x10000)

include hkeep

/-- A character of one code unit is escaped as the character is. -/
theorem encodeUnits?_unit {c : Char} (hc : c.toNat < 0x10000) (rest : List Nat) :
    encodeUnits? unescaped (c.toNat :: rest) =
      (encodeUnits? unescaped rest).map (percentChar keep c ++ ·) := by
  have hvalid := Utf8.toNat_valid c
  rw [encodeUnits?.eq_def]
  by_cases hmem : c ∈ unescaped
  · simp only [find?_toNat_of_mem hmem, percentChar, (hkeep c).mpr hmem, if_true,
      List.singleton_append]
  · have hnone : unescaped.find? (·.toNat = c.toNat) = none :=
      find?_toNat_eq_none fun other hother hcode => hmem (Char.toNat_inj.mp hcode ▸ hother)
    have hescape : keep c = false := by
      rw [Bool.eq_false_iff, ne_eq, hkeep c]
      exact hmem
    have hhigh : ¬ (0xD800 ≤ c.toNat ∧ c.toNat < 0xDC00) := by omega
    have hlow : ¬ (0xDC00 ≤ c.toNat ∧ c.toNat < 0xE000) := by omega
    simp only [hnone, hhigh, hlow, if_false, percentChar, hescape, Bool.false_eq_true,
      escapedPoint_toNat]

include hplane

/-- A pair of surrogates is escaped as the character it stands for. -/
theorem encodeUnits?_pair {c : Char} (hc : ¬ c.toNat < 0x10000) (rest : List Nat) :
    encodeUnits? unescaped ((0xD800 + (c.toNat - 0x10000) / 0x400) ::
        (0xDC00 + (c.toNat - 0x10000) % 0x400) :: rest) =
      (encodeUnits? unescaped rest).map (percentChar keep c ++ ·) := by
  have hvalid := Utf8.toNat_valid c
  have hescape : keep c = false := by
    rw [Bool.eq_false_iff, ne_eq, hkeep c]
    exact fun hmem => hc (hplane c hmem)
  -- No character is a surrogate.
  have hnone : unescaped.find? (·.toNat = 0xD800 + (c.toNat - 0x10000) / 0x400) = none := by
    apply find?_toNat_eq_none
    intro other _ hcode
    have hother := Utf8.toNat_valid other
    omega
  have hpoint : 0x10000 + (0xD800 + (c.toNat - 0x10000) / 0x400 - 0xD800) * 0x400 +
      (0xDC00 + (c.toNat - 0x10000) % 0x400 - 0xDC00) = c.toNat := by omega
  rw [encodeUnits?.eq_def]
  simp only [hnone]
  rw [if_pos (by omega), if_pos (by omega), hpoint, escapedPoint_toNat, percentChar, hescape]
  rfl

/-- A character is encoded from its code units. -/
theorem encodeUnits?_codeUnits (c : Char) (rest : List Nat) :
    encodeUnits? unescaped (codeUnits c ++ rest) =
      (encodeUnits? unescaped rest).map (percentChar keep c ++ ·) := by
  unfold codeUnits
  split
  · rename_i hc
    exact encodeUnits?_unit hkeep hc rest
  · rename_i hc
    exact encodeUnits?_pair hkeep hplane hc rest

theorem encodeUnits?_eq_percentEncode (text : List Char) :
    encodeUnits? unescaped (text.flatMap codeUnits) = some (percentEncode keep text) := by
  induction text with
  | nil => rfl
  | cons c text ih =>
      rw [List.flatMap_cons, encodeUnits?_codeUnits hkeep hplane, ih]
      rfl

end Units

end RouteScribe.Text
