/-!
# Binary floating-point numbers

A number with fractional part is kept as a binary64 datum: an infinity, the
value that is not a number, or a sign with a significand below `2 ^ 53` times a
power of two.  Reading a decimal rounds its exact value to the nearest datum and
a tie to the even significand, all in integer arithmetic.
-/

namespace RouteScribe.Number

/-- A binary64 datum.  A finite one stands for `significand * 2 ^ exponent`; its
exponent is at least `-1074`, and its significand is at least `2 ^ 52` unless the
exponent is the least one, so that equal numbers of equal sign are equal data. -/
inductive Binary64 where
  | notANumber
  | infinity (negative : Bool)
  | finite (negative : Bool) (significand : Nat) (exponent : Int)
  deriving DecidableEq, Repr, Inhabited

/-- The quotient of two numbers to the nearest integer, a half to the even one. -/
def roundDiv (num den : Nat) : Nat :=
  let quotient := num / den
  let remainder := num % den
  if 2 * remainder < den then quotient
  else if den < 2 * remainder then quotient + 1
  else quotient + quotient % 2

namespace Binary64

def leastExponent : Int := -1074

def greatestExponent : Int := 971

/-- Zero of either sign. -/
def zero (negative : Bool) : Binary64 :=
  .finite negative 0 leastExponent

/-- The datum nearest to a positive quotient. -/
def ofRatio (negative : Bool) (num den : Nat) : Binary64 :=
  if num = 0 then zero negative
  else
    let estimate : Int := (Nat.log2 num : Int) - (Nat.log2 den : Int)
    let reached :=
      if 0 ≤ estimate then den * Nat.pow 2 estimate.toNat ≤ num
      else den ≤ num * Nat.pow 2 (-estimate).toNat
    let leading := if reached then estimate else estimate - 1
    let exponent := max (leading - 52) leastExponent
    let significand :=
      roundDiv (num * Nat.pow 2 (-exponent).toNat) (den * Nat.pow 2 exponent.toNat)
    let (significand, exponent) :=
      if significand = Nat.pow 2 53 then (Nat.pow 2 52, exponent + 1) else (significand, exponent)
    if greatestExponent < exponent then .infinity negative
    else .finite negative significand exponent

/-- The number of decimal digits of a number; zero has one. -/
def digitCount (n : Nat) : Nat :=
  (Nat.toDigits 10 n).length

/-- The datum nearest to `digits * 10 ^ power`.  Numbers far outside the range of
the format are decided by their magnitude alone. -/
def ofDecimal (negative : Bool) (digits : Nat) (power : Int) : Binary64 :=
  let magnitude := (digitCount digits : Int) + power
  if digits = 0 ∨ magnitude < -400 then zero negative
  else if 400 < magnitude then .infinity negative
  else ofRatio negative (digits * Nat.pow 10 power.toNat) (Nat.pow 10 (-power).toNat)

end Binary64

/-- The number that a run of decimal digits denotes.  Only the characters `0` to
`9` are expected. -/
def digitsValue (digits : List Char) : Nat :=
  digits.foldl (fun value c => value * 10 + (c.toNat - '0'.toNat)) 0

/-- The datum denoted by a whole part, a fractional part and a power of ten. -/
def Binary64.ofParts (negative : Bool) (whole fraction : List Char) (power : Int) : Binary64 :=
  .ofDecimal negative (digitsValue (whole ++ fraction)) (power - fraction.length)

end RouteScribe.Number
