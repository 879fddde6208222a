import RouteScribe.Shell.Script

/-!
# Tokens of shell scripts

A script is cut into words, operators and redirection signs.  Quotes and
backslashes protect characters inside a word; a number right before a redirection
sign names a stream.
-/

namespace RouteScribe.Shell

open RouteScribe.Text

inductive TokenKind where
  | word (pieces : Word)
  | operator (text : String)
  | redirect (stream : Nat) (kind : RedirectKind)
  deriving DecidableEq, Repr

structure Token where
  line : Nat
  kind : TokenKind
  deriving DecidableEq, Repr

/-- Blank space inside a line. -/
def isGap (c : Char) : Bool :=
  c = ' ' || c = '\t'

/-- The characters that end a word. -/
def isDelimiter (c : Char) : Bool :=
  isGap c || "\n;&|()<>".toList.contains c

def isVariableStart (c : Char) : Bool :=
  c.isAlpha || c = '_'

def isVariableChar (c : Char) : Bool :=
  c.isAlphanum || c = '_'

/-- The name of the variable after a dollar sign, with the number of characters it
takes. -/
def variableName? : List Char → Option (String × Nat)
  | '\x7b' :: rest =>
      let name := rest.takeWhile (· != '\x7d')
      if (rest.drop name.length).isEmpty then none
      else some (.ofList name, name.length + 2)
  | c :: rest =>
      if "?$#!".toList.contains c then some (.singleton c, 1)
      else if isVariableStart c then
        let more := rest.takeWhile isVariableChar
        some (.ofList (c :: more), more.length + 1)
      else none
  | [] => none

/-- Puts a protected or plain character in front of a word. -/
def consChar (isQuoted : Bool) (c : Char) : Word → Word
  | .literal flag text :: pieces =>
      if flag = isQuoted then .literal flag (c :: text) :: pieces
      else .literal isQuoted [c] :: .literal flag text :: pieces
  | pieces => .literal isQuoted [c] :: pieces

/-- How the next character of a word is protected. -/
inductive Quoting where
  | plain
  | single
  | double
  deriving DecidableEq, Repr

/-- The rest of a word with the text after it; `none` if a quote is not closed.
`skip` characters have been taken already. -/
def readWord : (quoting : Quoting) → (skip : Nat) → List Char → Option (Word × List Char)
  | quoting, skip + 1, _ :: rest => readWord quoting skip rest
  | .plain, _, [] => some ([], [])
  | _, _, [] => none
  | .single, 0, c :: rest =>
      if c = '\'' then readWord .plain 0 rest
      else (readWord .single 0 rest).map fun (word, after) => (consChar true c word, after)
  | .double, 0, c :: rest =>
      if c = '"' then readWord .plain 0 rest
      else if c = '\\' then
        match rest with
        | next :: _ =>
            let pass := (readWord .double 1 rest)
            if next = '\n' then pass
            else if "$\"\\\x60".toList.contains next then
              pass.map fun (word, after) => (consChar true next word, after)
            else
              (readWord .double 0 rest).map fun (word, after) => (consChar true c word, after)
        | [] => none
      else if c = '$' then
        match variableName? rest with
        | some (name, length) =>
            (readWord .double length rest).map fun (word, after) =>
              (.variable true name :: word, after)
        | none =>
            (readWord .double 0 rest).map fun (word, after) => (consChar true c word, after)
      else (readWord .double 0 rest).map fun (word, after) => (consChar true c word, after)
  | .plain, 0, c :: rest =>
      if isDelimiter c then some ([], c :: rest)
      else if c = '\'' then
        (readWord .single 0 rest).map fun (word, after) => (.literal true [] :: word, after)
      else if c = '"' then
        (readWord .double 0 rest).map fun (word, after) => (.literal true [] :: word, after)
      else if c = '\\' then
        match rest with
        | next :: _ =>
            let pass := (readWord .plain 1 rest)
            if next = '\n' then pass
            else pass.map fun (word, after) => (consChar true next word, after)
        | [] => some ([.literal true ['\\']], [])
      else if c = '$' then
        match variableName? rest with
        | some (name, length) =>
            (readWord .plain length rest).map fun (word, after) =>
              (.variable false name :: word, after)
        | none =>
            (readWord .plain 0 rest).map fun (word, after) => (consChar false c word, after)
      else (readWord .plain 0 rest).map fun (word, after) => (consChar false c word, after)

/-- The redirection signs, longer ones first. -/
def redirectSigns : List (String × Nat × RedirectKind) :=
  [(">>", 1, .toEnd), (">&", 1, .duplicate), (">|", 1, .toFile), ("<&", 0, .duplicate),
    (">", 1, .toFile), ("<", 0, .fromFile)]

/-- The operators, longer ones first. -/
def operatorSigns : List String :=
  ["&&", "||", ";;", ";", "&", "|", "(", ")", "\n"]

/-- A redirection sign with the number of its stream, and its length. -/
def redirectSign? (text : List Char) : Option (TokenKind × Nat) := do
  let digits := text.takeWhile Char.isDigit
  let rest := text.drop digits.length
  let (sign, usual, kind) ← redirectSigns.find? fun (sign, _, _) => sign.toList.isPrefixOf rest
  let stream := if digits.isEmpty then usual else (String.ofList digits).toNat?.getD usual
  return (.redirect stream kind, digits.length + sign.length)

/-- The number of characters between the start of a text and a later part of it. -/
def lengthUpTo (text rest : List Char) : Nat :=
  text.length - rest.length

/-- Cuts a script into tokens.  `skip` characters have been taken already. -/
def scan : (line skip : Nat) → List Char → Except ScriptError (List Token)
  | _, _, [] => .ok []
  | line, skip + 1, c :: rest => scan (if c = '\n' then line + 1 else line) skip rest
  | line, 0, c :: rest =>
      let next := if c = '\n' then line + 1 else line
      if isGap c then scan line 0 rest
      else if c = '\\' && rest.head? = some '\n' then scan line 1 rest
      else if c = '#' then scan line (rest.takeWhile (· != '\n')).length rest
      else
        match redirectSign? (c :: rest) with
        | some (kind, length) =>
            (scan next (length - 1) rest).map (⟨line, kind⟩ :: ·)
        | none =>
            match operatorSigns.find? (·.toList.isPrefixOf (c :: rest)) with
            | some sign => (scan next (sign.length - 1) rest).map (⟨line, .operator sign⟩ :: ·)
            | none =>
                match readWord .plain 0 (c :: rest) with
                | none => .error ⟨line, .unterminatedQuote⟩
                | some (word, after) =>
                    (scan next (lengthUpTo (c :: rest) after - 1) rest).map
                      (⟨line, .word word⟩ :: ·)

end RouteScribe.Shell
