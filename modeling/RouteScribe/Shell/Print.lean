import RouteScribe.Shell.Effect
import RouteScribe.Text.Hex

/-!
# Printing commands

`echo` writes its operands with blanks between them; `printf` writes a format with
its operands filled in, again and again until none is left.  Both replace escapes
that start with a backslash.
-/

namespace RouteScribe.Shell

open RouteScribe.Project RouteScribe.Text

def octalValue (digits : List Char) : Nat :=
  digits.foldl (fun value digit => value * 8 + (digit.toNat - '0'.toNat)) 0

def isOctalDigit (c : Char) : Bool :=
  '0' ≤ c && c ≤ '7'

def escapeLetter? : Char → Option Char
  | 'a' => some '\x07'
  | 'b' => some '\x08'
  | 'f' => some '\x0c'
  | 'n' => some '\n'
  | 'r' => some '\r'
  | 't' => some '\t'
  | 'v' => some '\x0b'
  | '\\' => some '\\'
  | _ => none

/-- The byte of an octal escape after its backslash, with the number of digits.
With `leadingZero` a zero may come before three digits. -/
def octalEscape? (leadingZero : Bool) (text : List Char) : Option (UInt8 × Nat) :=
  let limit := if leadingZero && text.head? = some '0' then 4 else 3
  let digits := (text.take limit).takeWhile isOctalDigit
  if digits.isEmpty then none else some ((octalValue digits).toUInt8, digits.length)

/-- Replaces the escapes of a text.  Output ends at `\c`, which the second component
tells.  `skip` characters have been taken already. -/
def unescape (leadingZero : Bool) : (skip : Nat) → List Char → List UInt8 × Bool
  | _, [] => ([], false)
  | skip + 1, _ :: rest => unescape leadingZero skip rest
  | 0, '\\' :: rest =>
      let onward (content : List UInt8) (length : Nat) : List UInt8 × Bool :=
        let (more, ended) := unescape leadingZero length rest
        (content ++ more, ended)
      match rest with
      | [] => ([0x5C], false)
      | letter :: _ =>
          if letter = 'c' && leadingZero then ([], true)
          else
            match escapeLetter? letter, octalEscape? leadingZero rest with
            | some c, _ => onward [c.toNat.toUInt8] 1
            | none, some (byte, length) => onward [byte] length
            | none, none => onward [0x5C] 0
  | 0, c :: rest =>
      let (more, ended) := unescape leadingZero 0 rest
      (Utf8.encode [c] ++ more, ended)

def echo (disk : Disk) (operands : List String) : Effect :=
  let (operands, ending) : List String × List UInt8 := match operands with
    | "-n" :: rest => (rest, [])
    | _ => (operands, [0x0A])
  let (content, ended) := unescape true 0 (" ".intercalate operands).toList
  .output disk (if ended then content else content ++ ending)

structure Conversion where
  alignLeft : Bool
  fillZero : Bool
  width : Nat
  precision : Option Nat
  letter : Char

inductive FormatPiece where
  | text (content : List UInt8)
  | conversion (conversion : Conversion)

/-- The conversion after a percent sign, with the number of characters it takes. -/
def conversion? (text : List Char) : Option (Conversion × Nat) := do
  let flags := text.takeWhile "-0+ #".toList.contains
  let rest := text.drop flags.length
  let width := rest.takeWhile Char.isDigit
  let rest := rest.drop width.length
  let precision := match rest with
    | '.' :: more => '.' :: more.takeWhile Char.isDigit
    | _ => []
  let letter ← (rest.drop precision.length).head?
  let number (digits : List Char) : Nat := (String.ofList digits).toNat?.getD 0
  return ({
    alignLeft := flags.contains '-'
    fillZero := flags.contains '0'
    width := number width
    precision := if precision.isEmpty then none else some (number (precision.drop 1))
    letter }, flags.length + width.length + precision.length + 1)

/-- Cuts a format into pieces.  `skip` characters have been taken already. -/
def formatPieces : (skip : Nat) → List Char → List FormatPiece
  | _, [] => []
  | skip + 1, _ :: rest => formatPieces skip rest
  | 0, '%' :: rest =>
      match rest.head?, conversion? rest with
      | some '%', _ => .text [0x25] :: formatPieces 1 rest
      | _, some (conversion, length) => .conversion conversion :: formatPieces length rest
      | _, none => .text [0x25] :: formatPieces 0 rest
  | 0, '\\' :: rest =>
      match rest.head?.bind escapeLetter?, octalEscape? false rest with
      | some c, _ => .text [c.toNat.toUInt8] :: formatPieces 1 rest
      | none, some (byte, length) => .text [byte] :: formatPieces length rest
      | none, none => .text [0x5C] :: formatPieces 0 rest
  | 0, c :: rest => .text (Utf8.encode [c]) :: formatPieces 0 rest

/-- The number that an operand denotes, if it is a decimal numeral. -/
def numeral? (operand : String) : Option Int :=
  match operand.toList with
  | '-' :: digits =>
      if digits.all Char.isDigit then (String.ofList digits).toNat?.map (-·) else none
  | digits => if digits.all Char.isDigit then (String.ofList digits).toNat?.map (·) else none

def Conversion.pad (conversion : Conversion) (fill : Char) (text : List Char) : List Char :=
  let gap := List.replicate (conversion.width - text.length) fill
  if conversion.alignLeft then text ++ List.replicate gap.length ' ' else gap ++ text

/-- An operand as a conversion shows it; the flag tells that it is not the number it
has to be. -/
def Conversion.apply (conversion : Conversion) (operand : String) : List UInt8 × Bool :=
  let number (show_ : Int → List Char) : List UInt8 × Bool :=
    let value := if operand.isEmpty then some 0 else numeral? operand
    let fill := if conversion.fillZero && !conversion.alignLeft then '0' else ' '
    (Utf8.encode (conversion.pad fill (show_ (value.getD 0))), value.isNone)
  match conversion.letter with
  | 'd' | 'i' | 'u' => number fun value => (toString value).toList
  | 'x' => number fun value => Nat.toDigits 16 value.toNat
  | 'o' => number fun value => Nat.toDigits 8 value.toNat
  | 'c' => (Utf8.encode (conversion.pad ' ' (operand.toList.take 1)), false)
  | 'b' => ((unescape true 0 operand.toList).1, false)
  | _ =>
      let shown := match conversion.precision with
        | some length => operand.toList.take length
        | none => operand.toList
      (Utf8.encode (conversion.pad ' ' shown), false)

/-- Fills operands into the pieces of a format once; gives what is written, the
operands that are no numbers, and those that are left. -/
def fillPieces : List FormatPiece → List String → List UInt8 × List String × List String
  | [], operands => ([], [], operands)
  | .text content :: pieces, operands =>
      let (more, wrong, rest) := fillPieces pieces operands
      (content ++ more, wrong, rest)
  | .conversion conversion :: pieces, operands =>
      let operand := operands.head?.getD ""
      let (content, isWrong) := conversion.apply operand
      let (more, wrong, rest) := fillPieces pieces operands.tail
      (content ++ more, if isWrong then operand :: wrong else wrong, rest)

/-- Fills operands into a format until none is left. -/
def fillFormat (pieces : List FormatPiece) : (rounds : Nat) → List String →
    List UInt8 × List String
  | 0, _ => ([], [])
  | rounds + 1, operands =>
      let (content, wrong, rest) := fillPieces pieces operands
      if rest.isEmpty || rest.length = operands.length then (content, wrong)
      else
        let (more, moreWrong) := fillFormat pieces rounds rest
        (content ++ more, wrong ++ moreWrong)

/-- The `printf` command; reports start with `name`. -/
def printFormatted (name : String) (disk : Disk) : List String → Effect
  | [] => .complain disk 2 (name ++ "printf: usage: printf format [arg ...]")
  | format :: operands =>
      let (content, wrong) :=
        fillFormat (formatPieces 0 format.toList) (operands.length + 1) operands
      let reports := wrong.map fun operand =>
        (Stream.error, Utf8.encode
          (name ++ "printf: " ++ operand ++ ": expected numeric value\n").toList)
      { disk, written := reports ++ [(.output, content)],
        status := if wrong.isEmpty then 0 else 1 }

end RouteScribe.Shell
