import RouteScribe.Shell.Token

/-!
# Reading shell scripts

`|` binds strongest, then `&&` and `||`, which group to the left, then `;` and the
end of a line.  The depth of the recursion is bounded by the number of tokens.
-/

namespace RouteScribe.Shell

abbrev Read (α : Type) := List Token → Except ScriptError (α × List Token)

def TokenKind.show : TokenKind → String
  | .word _ => "word"
  | .redirect .. => "redirection"
  | .operator "\n" => "newline"
  | .operator text => "\"" ++ text ++ "\""

def lineOf (line : Nat) (tokens : List Token) : Nat :=
  (tokens.head?.map (·.line)).getD line

def refuse {α : Type} (line : Nat) (expected : Option String) (tokens : List Token) :
    Except ScriptError α :=
  match tokens with
  | [] => .error ⟨line, .unexpected "end of file" expected⟩
  | token :: _ => .error ⟨token.line, .unexpected token.kind.show expected⟩

/-- The variable that a word assigns to, with the value it assigns. -/
def assignment? : Word → Option (String × Word)
  | .literal false text :: pieces =>
      let name := text.takeWhile isVariableChar
      match text.drop name.length with
      | '=' :: value =>
          if (name.head?.map isVariableStart).getD false then
            some (.ofList name, .literal false value :: pieces)
          else none
      | _ => none
  | _ => none

/-- Whether a token is a word that is a sign of its own. -/
def Token.isSign (token : Token) (sign : String) : Bool :=
  token.kind = .word [.literal false sign.toList]

/-- The words and redirections of a simple command. -/
def readParts (line : Nat) : Read (List Word × List Redirect)
  | [] => .ok (([], []), [])
  | ⟨here, .word word⟩ :: tokens => do
      let ((words, redirects), rest) ← readParts here tokens
      return ((word :: words, redirects), rest)
  | ⟨_, .redirect stream kind⟩ :: ⟨here, .word target⟩ :: tokens => do
      let ((words, redirects), rest) ← readParts here tokens
      return ((words, ⟨stream, kind, target⟩ :: redirects), rest)
  | ⟨_, .redirect _ _⟩ :: tokens => refuse line none tokens
  | tokens => .ok (([], []), tokens)

/-- The redirections after a group. -/
def readRedirects (line : Nat) : Read (List Redirect)
  | ⟨_, .redirect stream kind⟩ :: ⟨here, .word target⟩ :: tokens => do
      let (redirects, rest) ← readRedirects here tokens
      return (⟨stream, kind, target⟩ :: redirects, rest)
  | ⟨_, .redirect _ _⟩ :: tokens => refuse line none tokens
  | tokens => .ok ([], tokens)

/-- A simple command from its words: assignments come first. -/
def simpleCommand (line : Nat) (words : List Word) (redirects : List Redirect) : Command :=
  let assignments := (words.takeWhile fun word => (assignment? word).isSome)
  .simple line (assignments.filterMap assignment?) (words.drop assignments.length) redirects

/-- The tokens after the line feeds at the start. -/
def skipLines (tokens : List Token) : List Token :=
  tokens.dropWhile (·.kind = .operator "\n")

def endsList : List Token → Bool
  | [] => true
  | token :: _ => token.kind = .operator ")" || token.isSign "\x7d"

def closeGroup (line : Nat) (isolated : Bool) (body : Command) (tokens : List Token) :
    Except ScriptError (Command × List Token) :=
  let sign := if isolated then ")" else "\x7d"
  match tokens with
  | token :: rest =>
      if token.kind = .operator sign || token.isSign sign then do
        let (redirects, rest) ← readRedirects token.line rest
        return (.group line isolated body redirects, rest)
      else refuse line (some sign) tokens
  | [] => refuse line (some sign) tokens

mutual

/-- A command without joining operators. -/
def readCommand : (fuel line : Nat) → Read Command
  | 0, line, tokens => refuse line none tokens
  | fuel + 1, line, tokens =>
      match tokens with
      | ⟨here, .operator "("⟩ :: rest => do
          let (body, rest) ← readList fuel here rest
          if body = .nothing then refuse here none rest else closeGroup here true body rest
      | ⟨_, .operator _⟩ :: _ => refuse line none tokens
      | [] => refuse line none tokens
      | token :: rest =>
          if token.isSign "\x7b" then do
            let (body, rest) ← readList fuel token.line rest
            if body = .nothing then refuse token.line none rest
            else closeGroup token.line false body rest
          else if token.isSign "\x7d" then
            .error ⟨token.line, .unexpected "\"\x7d\"" none⟩
          else if token.isSign "!" then do
            let (body, rest) ← readPipe fuel token.line rest
            return (.negation body, rest)
          else do
            let ((words, redirects), rest) ← readParts line tokens
            return (simpleCommand token.line words redirects, rest)
termination_by structural fuel => fuel

def readPipe : (fuel line : Nat) → Read Command
  | 0, line, tokens => refuse line none tokens
  | fuel + 1, line, tokens => do
      let (left, rest) ← readCommand fuel line tokens
      match rest with
      | ⟨here, .operator "|"⟩ :: rest =>
          let (right, rest) ← readPipe fuel here (skipLines rest)
          return (.pipe left right, rest)
      | _ => return (left, rest)
termination_by structural fuel => fuel

/-- The pipes that follow a first one after `&&` or `||`. -/
def readMore : (fuel line : Nat) → (left : Command) → Read Command
  | 0, _, left, tokens => .ok (left, tokens)
  | fuel + 1, line, left, tokens =>
      match tokens with
      | ⟨here, .operator "&&"⟩ :: rest => do
          let (right, rest) ← readPipe fuel here (skipLines rest)
          readMore fuel line (.both left right) rest
      | ⟨here, .operator "||"⟩ :: rest => do
          let (right, rest) ← readPipe fuel here (skipLines rest)
          readMore fuel line (.either left right) rest
      | _ => .ok (left, tokens)
termination_by structural fuel => fuel

/-- Commands one after another. -/
def readList : (fuel line : Nat) → Read Command
  | 0, _, tokens => .ok (.nothing, tokens)
  | fuel + 1, line, tokens => do
      let tokens := skipLines tokens
      if endsList tokens then return (.nothing, tokens)
      let (left, rest) ← readPipe fuel (lineOf line tokens) tokens
      let (first, rest) ← readMore fuel line left rest
      match rest with
      | ⟨here, .operator sign⟩ :: rest' =>
          if sign = ";" || sign = "&" || sign = "\n" then
            let (second, rest) ← readList fuel here rest'
            return (if second = .nothing then first else .sequence first second, rest)
          else return (first, rest)
      | _ => return (first, rest)
termination_by structural fuel => fuel

end

def Command.read (text : String) : Except ScriptError Command := do
  let tokens ← scan 1 0 text.toList
  let (command, rest) ← readList (8 * tokens.length + 8) 1 tokens
  if rest.isEmpty then return command else refuse 1 none rest

end RouteScribe.Shell
