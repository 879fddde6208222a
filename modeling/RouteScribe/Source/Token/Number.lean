import RouteScribe.Json.Reader
import RouteScribe.Source.Token.Basic

/-!
# Number tokens

Integers are written in decimal, or in another base after a marking zero.
Decimal numbers may have a fraction, an exponent and the mark of an imaginary
number.  Single underscores may stand between digits.
-/

namespace RouteScribe.Source

open RouteScribe.Number RouteScribe.Text

/-- Digits without their underscores, and the number of characters they took. -/
abbrev DigitRun := List Char × Nat

/-- Reads digits in which single underscores may stand between digits; `none` if
an underscore is not followed by a digit.  `afterMark` says that an underscore
may come first. -/
def digitRun (isDigit : Char → Bool) : (afterMark : Bool) → List Char → Option DigitRun
  | _, [] => some ([], 0)
  | mayBreak, '_' :: rest =>
      match mayBreak, rest with
      | true, c :: _ =>
          if isDigit c then (digitRun isDigit false rest).map fun (digits, n) => (digits, n + 1)
          else none
      | true, [] => none
      | false, _ => some ([], 0)
  | _, c :: rest =>
      if isDigit c then (digitRun isDigit true rest).map fun (digits, n) => (c :: digits, n + 1)
      else some ([], 0)

def continuesName (c : Char) : Bool :=
  c.isAlphanum || c = '_' || 0x80 ≤ c.toNat

/-- Words that may follow a number without a blank between. -/
def wordsAfterNumber : List String :=
  ["and", "else", "for", "if", "in", "is", "or", "not"]

/-- Whether a number may end before the given text. -/
def endsNumber (rest : List Char) : Bool :=
  !(rest.head?.any continuesName) ||
    wordsAfterNumber.any fun word => word.toList.isPrefixOf rest

def valueInBase (base : Nat) (digits : List Char) : Nat :=
  digits.foldl (fun value c => value * base + (hexValue? c).getD 0) 0

def wholeToken (n : Nat) : TokenKind :=
  if isShort : Json.isConvertible n then .number (.int ⟨n, isShort⟩) else .uncovered

/-- Reads an integer after the mark of its base. -/
def basedNumber? (base : Nat) (rest : List Char) : Option (TokenKind × Nat) := do
  let isDigit (c : Char) : Bool := (hexValue? c).any (· < base)
  let (digits, taken) ← digitRun isDigit true rest
  let after := rest.drop taken
  if digits.isEmpty || after.head?.any Char.isDigit || !endsNumber after then none
  else return (wholeToken (valueInBase base digits), taken + 2)

/-- The exponent of a decimal number: its value and the characters it took.  A
mark that no digits follow belongs to the next token, unless a sign stands
between. -/
def exponent? (text : List Char) : Option (Option Int × Nat) :=
  match text with
  | mark :: rest =>
      if mark = 'e' ∨ mark = 'E' then
        match rest with
        | sign :: more =>
            if sign = '+' ∨ sign = '-' then do
              let (digits, taken) ← digitRun Char.isDigit false more
              if digits.isEmpty then none
              else
                let size : Int := digitsValue digits
                return (some (if sign = '-' then -size else size), taken + 2)
            else if sign.isDigit then do
              let (digits, taken) ← digitRun Char.isDigit false rest
              return (some (digitsValue digits), taken + 1)
            else some (none, 0)
        | [] => some (none, 0)
      else some (none, 0)
  | [] => some (none, 0)

def fraction? (text : List Char) : Option (Option (List Char) × Nat) :=
  match text with
  | '.' :: rest => do
      let (digits, taken) ← digitRun Char.isDigit false rest
      return (some digits, taken + 1)
  | _ => some (none, 0)

def decimalNumber? (text : List Char) : Option (TokenKind × Nat) := do
  let (whole, wholeTaken) ← digitRun Char.isDigit false text
  let (fraction, fractionTaken) ← fraction? (text.drop wholeTaken)
  let (exponent, exponentTaken) ← exponent? (text.drop (wholeTaken + fractionTaken))
  let taken := wholeTaken + fractionTaken + exponentTaken
  let after := text.drop taken
  let isImaginary := after.head?.any fun c => c = 'j' ∨ c = 'J'
  let taken := if isImaginary then taken + 1 else taken
  if !endsNumber (text.drop taken) then none
  else
    let number := Binary64.ofParts false whole (fraction.getD []) (exponent.getD 0)
    if isImaginary then return (.number (.imaginary number), taken)
    else if fraction.isSome || exponent.isSome then return (.number (.float number), taken)
    else if whole.head? = some '0' && whole.any (· != '0') then none
    else if Json.digitLimit < whole.length then none
    else return (wholeToken (digitsValue whole), taken)

/-- Reads the number at the start of a text with the number of its characters;
`none` if it is malformed. -/
def readNumber? (text : List Char) : Option (TokenKind × Nat) :=
  match text with
  | '0' :: mark :: rest =>
      if mark = 'x' ∨ mark = 'X' then basedNumber? 16 rest
      else if mark = 'o' ∨ mark = 'O' then basedNumber? 8 rest
      else if mark = 'b' ∨ mark = 'B' then basedNumber? 2 rest
      else decimalNumber? text
  | _ => decimalNumber? text

end RouteScribe.Source
