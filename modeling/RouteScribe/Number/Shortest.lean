import RouteScribe.Number.Binary64

/-!
# Shortest decimal text

A number is written with the fewest decimal digits that read back as the same
datum, and among those with the digits nearest to it.  It is positional while
the exponent of its leading digit lies from `-4` to `15`, and scientific
otherwise.
-/

namespace RouteScribe.Number

/-- A positive decimal `digits * 10 ^ power`. -/
structure Decimal where
  digits : Nat
  power : Int
  deriving DecidableEq, Repr, Inhabited

/-- The numerator and denominator of `significand * 2 ^ exponent`. -/
def ratioOf (significand : Nat) (exponent : Int) : Nat × Nat :=
  (significand * Nat.pow 2 exponent.toNat, Nat.pow 2 (-exponent).toNat)

/-- The exponent `t` with `10 ^ t ≤ num / den < 10 ^ (t + 1)`. -/
def leadingPower (num den : Nat) : Int :=
  if den ≤ num then (Binary64.digitCount (num / den) : Int) - 1
  else
    let places := Binary64.digitCount (den / num)
    if den ≤ num * Nat.pow 10 (places - 1) then 1 - (places : Int) else -(places : Int)

/-- The neighbours of a number on the grid of decimals with the given power that
read back as the number, the nearer one first and of two equally near ones the
even one. -/
def readableNeighbours (significand : Nat) (exponent : Int) (power : Int) : List Decimal :=
  let (num, den) := ratioOf significand exponent
  let top := num * Nat.pow 10 (-power).toNat
  let bottom := den * Nat.pow 10 power.toNat
  let lower := top / bottom
  let nearer := roundDiv top bottom
  let other := if nearer = lower then lower + 1 else lower
  ([⟨nearer, power⟩, ⟨other, power⟩] : List Decimal).filter fun decimal =>
    Binary64.ofDecimal false decimal.digits decimal.power = .finite false significand exponent

/-- The first hit on the grids with `digits`, `digits + 1`, … digits. -/
def searchShortest (significand : Nat) (exponent leading : Int) :
    (grids digits : Nat) → Option Decimal
  | 0, _ => none
  | grids + 1, digits =>
      match readableNeighbours significand exponent (leading - digits + 1) with
      | decimal :: _ => some decimal
      | [] => searchShortest significand exponent leading grids (digits + 1)

/-- The one-digit grid can round up to ten, which is one digit a power higher. -/
def Decimal.carry (decimal : Decimal) : Decimal :=
  if decimal.digits = 10 then ⟨1, decimal.power + 1⟩ else decimal

/-- The shortest decimal that reads back as a positive number; seventeen digits
always suffice. -/
def shortest (significand : Nat) (exponent : Int) : Decimal :=
  let (num, den) := ratioOf significand exponent
  ((searchShortest significand exponent (leadingPower num den) 17 1).getD ⟨significand, 0⟩).carry

/-- The texts of the data that have no digits. -/
structure SpecialNames where
  notANumber : String
  infinity : String

/-- The exponent of ten after the mark `e`: a sign and at least two digits. -/
def exponentText (power : Int) : List Char :=
  let digits := Nat.toDigits 10 power.natAbs
  (if power < 0 then '-' else '+') :: (if digits.length < 2 then '0' :: digits else digits)

def Decimal.text (decimal : Decimal) : List Char :=
  let digits := Nat.toDigits 10 decimal.digits
  let leading := decimal.power + digits.length - 1
  if -4 ≤ leading ∧ leading < 16 then
    if leading < 0 then
      '0' :: '.' :: (List.replicate (-leading - 1).toNat '0' ++ digits)
    else
      let places := leading.toNat + 1
      let whole := digits.take places ++ List.replicate (places - digits.length) '0'
      let fraction := digits.drop places
      whole ++ '.' :: (if fraction.isEmpty then ['0'] else fraction)
  else
    let fraction := digits.drop 1
    digits.take 1 ++ (if fraction.isEmpty then [] else '.' :: fraction) ++
      'e' :: exponentText leading

def Binary64.text (names : SpecialNames) : Binary64 → String
  | .notANumber => names.notANumber
  | .infinity negative => (if negative then "-" else "") ++ names.infinity
  | .finite negative significand exponent =>
      let digits := if significand = 0 then "0.0".toList else (shortest significand exponent).text
      (if negative then "-" else "") ++ .ofList digits

/-- An imaginary number as text.  A whole number has no fraction here. -/
def Binary64.imaginaryText (names : SpecialNames) (part : Binary64) : String :=
  let text := part.text names
  (if text.endsWith ".0" then (text.dropEnd 2).toString else text) ++ "j"

end RouteScribe.Number
