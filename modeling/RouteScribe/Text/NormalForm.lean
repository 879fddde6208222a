import RouteScribe.Text.CombiningClass
import RouteScribe.Text.Decomposition

/-!
# Normal forms of names

Names that differ only in variants of characters, or in how a letter with marks
is put together, are the same name.  The normal form of a name takes its
characters apart, brings marks into their canonical order, and puts together
again what composes.
-/

namespace RouteScribe.Text

namespace Hangul

/-- The first syllable, and the first initial, medial and final letters.  The
first final letter stands for a syllable without one. -/
def syllableBase : Nat := 0xAC00
def initialBase : Nat := 0x1100
def medialBase : Nat := 0x1161
def finalBase : Nat := 0x11A7

def initialCount : Nat := 19
def medialCount : Nat := 21
def finalCount : Nat := 28

/-- The place of a character among the syllables. -/
def syllableIndex? (c : Char) : Option Nat :=
  if syllableBase ≤ c.toNat && c.toNat < syllableBase + initialCount * medialCount * finalCount then
    some (c.toNat - syllableBase)
  else none

def letters? (c : Char) : Option (List Char) :=
  (syllableIndex? c).map fun index =>
    let initial := Char.ofNat (initialBase + index / (medialCount * finalCount))
    let medial := Char.ofNat (medialBase + index % (medialCount * finalCount) / finalCount)
    if index % finalCount = 0 then [initial, medial]
    else [initial, medial, Char.ofNat (finalBase + index % finalCount)]

/-- The syllable of an initial and a medial letter, or of a syllable without a
final letter and a final letter. -/
def composite? (left right : Char) : Option Char :=
  let initial := left.toNat - initialBase
  let medial := right.toNat - medialBase
  if initialBase ≤ left.toNat && initial < initialCount && medialBase ≤ right.toNat &&
      medial < medialCount then
    some (Char.ofNat (syllableBase + (initial * medialCount + medial) * finalCount))
  else
    match syllableIndex? left with
    | some index =>
        if index % finalCount = 0 && finalBase < right.toNat &&
            right.toNat < finalBase + finalCount then
          some (Char.ofNat (left.toNat + (right.toNat - finalBase)))
        else none
    | none => none

end Hangul

/-- What a character consists of at first sight. -/
def partsOf? (c : Char) : Option (List Char) :=
  Hangul.letters? c <|> decompositions.findSome? (·.partsOf? c)

/-- What two characters compose to. -/
def composite? (left right : Char) : Option Char :=
  Hangul.composite? left right <|> decompositions.findSome? (·.composite? left right)

/-- The characters that a character finally consists of, as far as the fuel
allows. -/
def decompose : (fuel : Nat) → Char → List Char
  | 0, c => [c]
  | fuel + 1, c =>
      match partsOf? c with
      | some parts => parts.flatMap (decompose fuel)
      | none => [c]

/-- How often a part of a character can be taken apart itself. -/
def decompositionDepth : Nat := 8

/-- Puts a mark behind the marks of lower classes that follow it. -/
def insertMark (mark : Char) : List Char → List Char
  | [] => [mark]
  | c :: rest =>
      if 0 < combiningClass c && combiningClass c < combiningClass mark then
        c :: insertMark mark rest
      else mark :: c :: rest

/-- Brings the marks after each letter into the order of their classes.  Marks of
one class keep their order. -/
def orderMarks (text : List Char) : List Char :=
  text.foldr insertMark []

/-- Composes the characters after `letter` with it, where `kept` are those before
the rest that did not compose, last one first.  A character of the class of a kept
one, or of a lower class, cannot reach the letter. -/
def composeFrom (letter : Char) (kept : List Char) : List Char → List Char
  | [] => letter :: kept.reverse
  | c :: rest =>
      let isBlocked := kept.head?.any fun mark => combiningClass c ≤ combiningClass mark
      match if isBlocked then none else composite? letter c with
      | some composed => composeFrom composed kept rest
      | none =>
          if combiningClass c = 0 then letter :: kept.reverse ++ composeFrom c [] rest
          else composeFrom letter (c :: kept) rest

def compose : List Char → List Char
  | [] => []
  | c :: rest => composeFrom c [] rest

/-- The normal form of a name.  ASCII characters are in normal form. -/
def normalName (name : String) : String :=
  if name.toList.all (·.toNat < 0x80) then name
  else String.ofList (compose (orderMarks (name.toList.flatMap (decompose decompositionDepth))))

end RouteScribe.Text
