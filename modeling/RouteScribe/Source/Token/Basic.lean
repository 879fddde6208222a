import RouteScribe.Source.Literal

/-!
# Tokens

A source text falls into tokens and comments.  Line ends and changes of
indentation that structure the text are tokens of their own.
-/

namespace RouteScribe.Source

/-- A place in a text: a line counted from one, and a column counted in
characters from zero. -/
structure Position where
  line : Nat
  column : Nat
  deriving DecidableEq, Repr, Inhabited

def Position.before (left right : Position) : Bool :=
  left.line < right.line || (left.line = right.line && left.column < right.column)

/-- A string literal as it was written: its marks, the number of characters up to the
end of its opening quotes, and the characters between its quotes. -/
structure WrittenString where
  isRaw : Bool
  isBytes : Bool
  isFormatted : Bool
  isMarked : Bool
  opening : Nat
  body : List Char
  deriving DecidableEq, Repr

/-- The kinds of tokens.  A literal that is not covered has a value that is not modelled
here: a whole number with too many digits, or a text with a character that is written by
its name or is half a surrogate pair. -/
inductive TokenKind where
  | name (text : String)
  | number (value : Literal)
  | string (written : WrittenString)
  | uncovered
  | symbol (text : String)
  | newline
  | indent
  | dedent
  | finish
  deriving DecidableEq, Repr

/-- A token with its place.  `byte` is the offset of its start in its line,
counted in bytes. -/
structure Token where
  kind : TokenKind
  start : Position
  stop : Position
  byte : Nat
  deriving DecidableEq, Repr

structure Comment where
  start : Position
  text : String
  deriving DecidableEq, Repr

/-- Whether a token is part of the code, and not of its layout. -/
def Token.isCode (token : Token) : Bool :=
  match token.kind with
  | .name _ | .number _ | .string _ | .uncovered | .symbol _ => true
  | _ => false

/-- Names that have a fixed meaning and cannot be given to anything. -/
def keywords : List String :=
  ["False", "None", "True", "and", "as", "assert", "async", "await", "break", "class", "continue",
    "def", "del", "elif", "else", "except", "finally", "for", "from", "global", "if", "import",
    "in", "is", "lambda", "nonlocal", "not", "or", "pass", "raise", "return", "try", "while",
    "with", "yield"]

end RouteScribe.Source
