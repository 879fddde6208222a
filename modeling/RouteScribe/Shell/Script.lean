import RouteScribe.Text.Blank

/-!
# Shell scripts

The commands that a hook is written in: simple commands with assignments and
redirections, joined by pipes, `&&`, `||` and `;`, negated by `!` and grouped by
parentheses or braces.
-/

namespace RouteScribe.Shell

/-- A piece of a word: text, or the value of a variable.  What is quoted is not
split into fields. -/
inductive Piece where
  | literal (isQuoted : Bool) (text : List Char)
  | variable (isQuoted : Bool) (name : String)
  deriving DecidableEq, Repr

abbrev Word := List Piece

inductive RedirectKind where
  | fromFile
  | toFile
  | toEnd
  | duplicate
  deriving DecidableEq, Repr

/-- A redirection of the stream with a number. -/
structure Redirect where
  stream : Nat
  kind : RedirectKind
  target : Word
  deriving DecidableEq, Repr

inductive Command where
  | nothing
  | simple (line : Nat) (assignments : List (String × Word)) (words : List Word)
      (redirects : List Redirect)
  | group (line : Nat) (isolated : Bool) (body : Command) (redirects : List Redirect)
  | negation (body : Command)
  | pipe (left right : Command)
  | both (left right : Command)
  | either (left right : Command)
  | sequence (left right : Command)
  deriving DecidableEq, Repr

inductive ScriptFault where
  | unterminatedQuote
  /-- A part stands where another one, which may be known, has to be. -/
  | unexpected (part : String) (expected : Option String)
  deriving DecidableEq, Repr

/-- A fault with the line, counted from one, in which it shows. -/
structure ScriptError where
  line : Nat
  fault : ScriptFault
  deriving DecidableEq, Repr

def ScriptFault.message : ScriptFault → String
  | .unterminatedQuote => "Syntax error: Unterminated quoted string"
  | .unexpected part none => "Syntax error: " ++ part ++ " unexpected"
  | .unexpected part (some expected) =>
      "Syntax error: " ++ part ++ " unexpected (expecting \"" ++ expected ++ "\")"

end RouteScribe.Shell
