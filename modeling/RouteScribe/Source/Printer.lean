import RouteScribe.Source.Quotation
import RouteScribe.Source.Syntax

/-!
# Expressions as source text

An expression is written with as few parentheses as its grouping needs.  Each
form has a strength, and each place inside a form asks for a least strength of
what stands there; a weaker expression is put in parentheses.
-/

namespace RouteScribe.Source

/-- How strongly the parts of an expression hold together. -/
abbrev Strength := Nat

namespace Strength

def namedValue : Strength := 1
def tuple : Strength := 2
def yielding : Strength := 3
def test : Strength := 4
def disjunction : Strength := 5
def conjunction : Strength := 6
def negation : Strength := 7
def comparison : Strength := 8
def operand : Strength := 9
def signed : Strength := 15
def power : Strength := 16
def awaiting : Strength := 17
def atom : Strength := 18

/-- The next greater strength; nothing is stronger than an atom. -/
def next (strength : Strength) : Strength :=
  min (strength + 1) atom

end Strength

def BinaryOp.strength : BinaryOp → Strength
  | .bitOr => Strength.operand
  | .bitXor => 10
  | .bitAnd => 11
  | .lShift | .rShift => 12
  | .add | .sub => 13
  | .mult | .matMult | .div | .mod | .floorDiv => 14
  | .pow => Strength.power

def BoolOp.strength : BoolOp → Strength
  | .and => Strength.conjunction
  | .or => Strength.disjunction

/-- The strengths that the operands of a binary operator need. -/
def BinaryOp.operandStrengths (op : BinaryOp) : Strength × Strength :=
  if op = .pow then (op.strength.next, op.strength) else (op.strength, op.strength.next)

def UnaryOp.strength (op : UnaryOp) : Strength :=
  if op = .not then Strength.negation else Strength.signed

/-- Puts a text in parentheses if its place needs more strength than it has. -/
def parenthesize (needed strength : Strength) (text : String) : String :=
  if strength < needed then "(" ++ text ++ ")" else text

/-- Texts with commas between them; one text alone has a comma after it. -/
def commaSeparated : List String → String
  | [text] => text ++ ","
  | texts => ", ".intercalate texts

def Collection.enclose (text : String) : Collection → String
  | .list => "[" ++ text ++ "]"
  | .set => "\x7b" ++ text ++ "\x7d"
  | .generator => "(" ++ text ++ ")"

/-- Whether an expression is a whole number or a truth value, which needs a blank
before the dot of an attribute. -/
def Expr.isInteger : Expr → Bool
  | .literal (.int _) | .literal (.bool _) => true
  | _ => false

def doubleBraces (text : String) : List Char :=
  text.toList.flatMap fun c => if c = '{' ∨ c = '}' then [c, c] else [c]

/-- The mark after positional-only parameters, the star before keyword parameters
and the parameters themselves, in order. -/
def paramTexts (positionalOnly positional : List String) (rest : Option String)
    (keywordOnly : List String) (restKeywords : Option String) : List String :=
  let slash := if positionalOnly.isEmpty then [] else ["/"]
  let star :=
    match rest with
    | some text => ["*" ++ text]
    | none => if keywordOnly.isEmpty then [] else ["*"]
  positionalOnly ++ slash ++ positional ++ star ++ keywordOnly ++
    (restKeywords.map ("**" ++ ·)).toList

mutual

/-- An expression at a place that needs some strength.  `inField` says that the
place is in a field of a formatted text. -/
def Expr.print (inField : Bool) (needed : Strength) : Expr → String
  | .literal value => value.print inField
  | .name id => id
  | .attribute value member =>
      value.print inField .atom ++ (if value.isInteger then " ." else ".") ++ member
  | .subscript value (.tuple (first :: others)) =>
      value.print inField .atom ++ "[" ++
        commaSeparated (first.print inField .test :: printAll inField .test others) ++ "]"
  | .subscript value index => value.print inField .atom ++ "[" ++ index.print inField .test ++ "]"
  | .call _ func args keywords =>
      func.print inField .atom ++ "(" ++
        ", ".intercalate (printAll inField .test args ++ printKeywords inField keywords) ++ ")"
  | .named target value =>
      parenthesize needed .namedValue (target ++ " := " ++ value.print inField .atom)
  | .lambda params body =>
      let params := params.print inField
      parenthesize needed .test
        ("lambda" ++ (if params.isEmpty then "" else " " ++ params) ++ ": " ++
          body.print inField .test)
  | .boolean op values =>
      parenthesize needed op.strength
        ((" " ++ op.symbol ++ " ").intercalate (printRising inField op.strength values))
  | .binary left op right =>
      let (leftStrength, rightStrength) := op.operandStrengths
      parenthesize needed op.strength
        (left.print inField leftStrength ++ " " ++ op.symbol ++ " " ++
          right.print inField rightStrength)
  | .unary op operand =>
      parenthesize needed op.strength
        (op.symbol ++ (if op = .not then " " else "") ++ operand.print inField op.strength)
  | .conditional test body orElse =>
      parenthesize needed .test
        (body.print inField .disjunction ++ " if " ++ test.print inField .disjunction ++
          " else " ++ orElse.print inField .test)
  | .compare left links =>
      parenthesize needed .comparison
        (left.print inField .operand ++ printLinks inField links)
  | .tuple elements =>
      let text := commaSeparated (printAll inField .test elements)
      if elements.isEmpty || Strength.tuple < needed then "(" ++ text ++ ")" else text
  | .list elements => "[" ++ ", ".intercalate (printAll inField .test elements) ++ "]"
  | .set elements => "\x7b" ++ ", ".intercalate (printAll inField .test elements) ++ "\x7d"
  | .dict entries => "\x7b" ++ ", ".intercalate (printEntries inField entries) ++ "\x7d"
  | .comprehension kind element clauses =>
      kind.enclose (element.print inField .test ++ printClauses inField clauses)
  | .dictComprehension key value clauses =>
      "\x7b" ++ key.print inField .test ++ ": " ++ value.print inField .test ++
        printClauses inField clauses ++ "\x7d"
  | .starred value => "*" ++ value.print inField .operand
  | .await value => parenthesize needed .awaiting ("await " ++ value.print inField .atom)
  | .yields none => parenthesize needed .yielding "yield"
  | .yields (some value) =>
      parenthesize needed .yielding ("yield " ++ value.print inField .atom)
  | .yieldsFrom value =>
      parenthesize needed .yielding ("yield from " ++ value.print inField .atom)
  | .slice lower upper step =>
      (printOption inField lower).getD "" ++ ":" ++ (printOption inField upper).getD "" ++
        ((printOption inField step).map (":" ++ ·)).getD ""
  | .formatted parts =>
      let parts := printParts parts
      if inField then
        "f" ++ (Quotation.sparing quoteKinds false (parts.flatMap (·.text))).text
      else "f" ++ quoteFormatted parts

/-- Expressions that all stand at places of the same strength. -/
def printAll (inField : Bool) (needed : Strength) : List Expr → List String
  | [] => []
  | expr :: exprs => expr.print inField needed :: printAll inField needed exprs

/-- Expressions each of which needs more strength than the one before it. -/
def printRising (inField : Bool) (strength : Strength) : List Expr → List String
  | [] => []
  | expr :: exprs =>
      expr.print inField strength.next :: printRising inField strength.next exprs

def printOption (inField : Bool) : Option Expr → Option String
  | none => none
  | some expr => some (expr.print inField .test)

def printKeywords (inField : Bool) : List Keyword → List String
  | [] => []
  | .mk (some name) value :: keywords =>
      (name ++ "=" ++ value.print inField .test) :: printKeywords inField keywords
  | .mk none value :: keywords =>
      ("**" ++ value.print inField .test) :: printKeywords inField keywords

def printLinks (inField : Bool) : List CompareLink → String
  | [] => ""
  | .mk op right :: links =>
      " " ++ op.symbol ++ " " ++ right.print inField .operand ++ printLinks inField links

def printEntries (inField : Bool) : List DictEntry → List String
  | [] => []
  | .pair key value :: entries =>
      (key.print inField .test ++ ": " ++ value.print inField .test) :: printEntries inField entries
  | .unpack value :: entries =>
      ("**" ++ value.print inField .operand) :: printEntries inField entries

def printConditions (inField : Bool) : List Expr → String
  | [] => ""
  | condition :: conditions =>
      " if " ++ condition.print inField .disjunction ++ printConditions inField conditions

def printClauses (inField : Bool) : List Clause → String
  | [] => ""
  | .mk isAsync target source conditions :: clauses =>
      (if isAsync then " async for " else " for ") ++ target.print inField .tuple ++ " in " ++
        source.print inField .disjunction ++ printConditions inField conditions ++
        printClauses inField clauses

def printParts : List TextPart → List WrittenPart
  | [] => []
  | .text content :: parts => ⟨doubleBraces content, true⟩ :: printParts parts
  | .field value conversion format :: parts =>
      let inside := (value.print true .disjunction).toList
      let space := if inside.head? = some '{' then [' '] else []
      let conversion := (conversion.map (['!', ·])).getD []
      let format :=
        match printFormat format with
        | none => []
        | some parts => ':' :: parts.flatMap (·.text)
      ⟨'{' :: space ++ inside ++ conversion ++ format ++ ['}'], false⟩ :: printParts parts

def printFormat : Option (List TextPart) → Option (List WrittenPart)
  | none => none
  | some parts => some (printParts parts)

def Param.print (inField : Bool) : Param → String
  | .mk name hint default =>
      name ++ ((printOption inField hint).map (": " ++ ·)).getD "" ++
        ((printOption inField default).map ("=" ++ ·)).getD ""

def printParamList (inField : Bool) : List Param → List String
  | [] => []
  | param :: params => param.print inField :: printParamList inField params

def printParam? (inField : Bool) : Option Param → Option String
  | none => none
  | some param => some (param.print inField)

def Params.print (inField : Bool) : Params → String
  | .mk positionalOnly positional rest keywordOnly restKeywords =>
      ", ".intercalate
        (paramTexts (printParamList inField positionalOnly) (printParamList inField positional)
          (printParam? inField rest) (printParamList inField keywordOnly)
          (printParam? inField restKeywords))

end

/-- An expression as it stands alone in the source. -/
def Expr.text (expr : Expr) : String :=
  expr.print false .test

end RouteScribe.Source
