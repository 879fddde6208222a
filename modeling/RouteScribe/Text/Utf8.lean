import RouteScribe.Text.Hex

/-!
# UTF-8

Decoding is strict: the first malformed sequence is reported with the positions
of the bytes that make it up.  `columnOfByte` turns a byte offset of a line into a
column: it decodes the bytes before the offset and leaves out a character that the
offset cuts in two.
-/

namespace RouteScribe.Text.Utf8

/-- What is wrong with a byte sequence. -/
inductive Fault where
  | invalidStart
  | invalidContinuation
  | unexpectedEnd
  deriving DecidableEq, Repr

/-- A malformed sequence: `length` bytes from offset `first`, the first of which
is `byte`. -/
structure DecodeError where
  first : Nat
  length : Nat
  byte : UInt8
  fault : Fault
  deriving DecidableEq, Repr

def Fault.message : Fault → String
  | .invalidStart => "invalid start byte"
  | .invalidContinuation => "invalid continuation byte"
  | .unexpectedEnd => "unexpected end of data"

/-- The report of a malformed sequence. -/
def DecodeError.message (error : DecodeError) : String :=
  let place :=
    if error.length = 1 then
      s!"byte 0x{String.ofList (toHex 2 error.byte.toNat)} in position {error.first}"
    else s!"bytes in position {error.first}-{error.first + error.length - 1}"
  s!"'utf-8' codec can't decode {place}: {error.fault.message}"

def isContinuation (byte : UInt8) : Bool :=
  0x80 ≤ byte && byte < 0xC0

/-- The outcome of reading one character: the character with the number of bytes
it took, or a fault with the number of bytes to blame. -/
abbrev Step := Except (Fault × Nat) (Char × Nat)

def continuationBits (byte : UInt8) : Nat :=
  byte.toNat % 64

/-- Whether the second byte may follow the first: it rules out overlong forms,
surrogates and code points above the last one. -/
def mayFollow (first second : UInt8) : Bool :=
  isContinuation second &&
    (first != 0xE0 || 0xA0 ≤ second) && (first != 0xED || second < 0xA0) &&
    (first != 0xF0 || 0x90 ≤ second) && (first != 0xF4 || second < 0x90)

/-- Reads the character that starts with `first`, where `rest` follows it. -/
def readChar (first : UInt8) (rest : List UInt8) : Step :=
  if first < 0x80 then .ok (Char.ofNat first.toNat, 1)
  else if first < 0xC2 || 0xF5 ≤ first then .error (.invalidStart, 1)
  else
    match rest with
    | [] => .error (.unexpectedEnd, 1)
    | second :: rest =>
        if !mayFollow first second then .error (.invalidContinuation, 1)
        else if first < 0xE0 then
          .ok (Char.ofNat (first.toNat % 32 * 64 + continuationBits second), 2)
        else
          match rest with
          | [] => .error (.unexpectedEnd, 2)
          | third :: rest =>
              let high := continuationBits second * 64 + continuationBits third
              if !isContinuation third then .error (.invalidContinuation, 2)
              else if first < 0xF0 then .ok (Char.ofNat (first.toNat % 16 * 4096 + high), 3)
              else
                match rest with
                | [] => .error (.unexpectedEnd, 3)
                | fourth :: _ =>
                    if !isContinuation fourth then .error (.invalidContinuation, 3)
                    else
                      .ok (Char.ofNat (first.toNat % 8 * 262144 + high * 64 +
                        continuationBits fourth), 4)

/-- Decodes bytes from a given offset on.  `skip` bytes of the input belong to a
character that has been read already. -/
def decodeFrom : (offset skip : Nat) → List UInt8 → Except DecodeError (List Char)
  | _, _, [] => .ok []
  | offset, skip + 1, _ :: rest => decodeFrom (offset + 1) skip rest
  | offset, 0, first :: rest =>
      match readChar first rest with
      | .ok (c, taken) => (decodeFrom (offset + 1) (taken - 1) rest).map (c :: ·)
      | .error (fault, length) => .error ⟨offset, length, first, fault⟩

def decode (bytes : List UInt8) : Except DecodeError (List Char) :=
  decodeFrom 0 0 bytes

def encode (text : List Char) : List UInt8 :=
  text.flatMap String.utf8EncodeChar

/-- Decodes bytes and leaves out what is malformed.  `skip` bytes of the input belong to
what has been read or left out already. -/
def decodeValidFrom : (skip : Nat) → List UInt8 → List Char
  | _, [] => []
  | skip + 1, _ :: rest => decodeValidFrom skip rest
  | 0, first :: rest =>
      match readChar first rest with
      | .ok (c, taken) => c :: decodeValidFrom (taken - 1) rest
      | .error (_, length) => decodeValidFrom (length - 1) rest

/-- The characters of a byte sequence without what is malformed. -/
def decodeValid (bytes : List UInt8) : List Char :=
  decodeValidFrom 0 bytes

/-- The number of characters in the bytes of a line up to an offset.  A character that is
cut off there does not count. -/
def columnOfByte (offset : Nat) (line : List Char) : Nat :=
  (decodeValid ((encode line).take offset)).length

end RouteScribe.Text.Utf8
