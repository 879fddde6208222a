import RouteScribe.Number.Binary64
import RouteScribe.Text.Blank

/-!
# Reading decimal numbers

A number may have a sign, a fraction and an exponent, and at least one digit
before the exponent.  Infinity and the datum that is no number are written as
words.  Single underscores may stand between digits.
-/

namespace RouteScribe.Number

open RouteScribe.Text

/-- A sign at the start of a text and what follows it. -/
def signAndRest : List Char → Bool × List Char
  | '-' :: rest => (true, rest)
  | '+' :: rest => (false, rest)
  | rest => (false, rest)

/-- The power of ten of an exponent that makes up a whole text; an empty text stands
for zero. -/
def exponentOf? : List Char → Option Int
  | [] => some 0
  | mark :: rest =>
      let (negative, digits) := signAndRest rest
      if (mark = 'e' || mark = 'E') && !digits.isEmpty && digits.all Char.isDigit then
        some (if negative then -(digitsValue digits : Int) else digitsValue digits)
      else none

/-- The datum of a text without a sign. -/
def Binary64.ofUnsigned? (negative : Bool) (text : List Char) : Option Binary64 :=
  let word := String.ofList (text.map Char.toLower)
  if word = "inf" || word = "infinity" then some (.infinity negative)
  else if word = "nan" then some .notANumber
  else
    let whole := text.takeWhile Char.isDigit
    let rest := text.drop whole.length
    let (fraction, rest) := match rest with
      | '.' :: more => (more.takeWhile Char.isDigit, more.dropWhile Char.isDigit)
      | _ => ([], rest)
    if whole.isEmpty && fraction.isEmpty then none
    else (exponentOf? rest).map (.ofParts negative whole fraction)

def Binary64.ofText? (text : List Char) : Option Binary64 :=
  let (negative, rest) := signAndRest text
  Binary64.ofUnsigned? negative rest

/-- Whether underscores stand alone and inside a text. -/
def hasProperUnderscores : (mayBreak : Bool) → List Char → Bool
  | mayBreak, [] => mayBreak
  | mayBreak, c :: rest =>
      if c = '_' then mayBreak && hasProperUnderscores false rest
      else hasProperUnderscores true rest

/-- White space that may surround a number. -/
def isSurrounding (c : Char) : Bool :=
  isBlank c && !(0x1C ≤ c.toNat && c.toNat ≤ 0x1F)

/-- The datum that a text denotes, which blanks may surround or underscores break up,
but not both. -/
def Binary64.ofLooseText? (text : List Char) : Option Binary64 :=
  match Binary64.ofText? (dropEndWhile isSurrounding (text.dropWhile isSurrounding)) with
  | some number => some number
  | none =>
      if hasProperUnderscores false text then Binary64.ofText? (text.filter (· != '_')) else none

end RouteScribe.Number
