import RouteScribe.Source.Grammar.FormattedText

/-!
# Texts that are covered

A literal whose value is not modelled has a token of its own kind, which no rule of the
grammar takes.  A text with such a literal is told apart here from one that is malformed,
so that it is given up rather than refused.
-/

namespace RouteScribe.Source

/-- Whether what is to be read holds only literals that are covered, those in the fields
of its formatted texts included, up to a depth of nesting. -/
def isCoveredUpTo : (depth : Nat) → Reading → Bool
  | 0, _ => true
  | depth + 1, reading =>
      match lexFrom? reading with
      | none => true
      | some lexed =>
          lexed.tokens.all fun token =>
            match token.kind with
            | .uncovered => false
            | .string _ =>
                let pieces := (token.placedString?.bind PlacedString.pieces?).getD []
                (readingsOfPieces pieces).all (isCoveredUpTo depth)
            | _ => true

/-- Whether a text holds only literals whose values are modelled. -/
def isCovered (text : String) : Bool :=
  isCoveredUpTo (text.length + 1) (.ofText text.toList)

end RouteScribe.Source
