import RouteScribe.Table
import RouteScribe.Text.Blank

/-!
# Environment files

An environment file binds names to values, one binding a line.  A name may follow
the word `export` and may be quoted.  A value is quoted, and then may go over
several lines, or runs to the end of its line or to a comment.  A name without a
value is listed without one.  A line that is no binding is passed over.  Values
refer to other names by a dollar sign and braces.
-/

namespace RouteScribe.Settings

open RouteScribe.Text

/-- A name with its value, if it has one. -/
abbrev Binding := String × Option String

/-- Blank space inside a line. -/
def isInlineBlank (c : Char) : Bool :=
  isBlank c && c != '\n'

/-- A text without the blanks at its start that are inside a line. -/
def skipInline (text : List Char) : List Char :=
  text.dropWhile isInlineBlank

def dropLine (text : List Char) : List Char :=
  (text.dropWhile (· != '\n')).drop 1

/-- A text without the word `export` and the blanks after it. -/
def skipExport (text : List Char) : List Char :=
  let word := "export".toList
  let rest := text.drop word.length
  if word.isPrefixOf text && (rest.head?.map isInlineBlank).getD false then skipInline rest
  else text

/-- The position of the first quote that does not come after a backslash. -/
def freeQuote? (quote : Char) : (escaped : Bool) → List Char → Option Nat
  | _, [] => none
  | escaped, c :: rest =>
      if c = quote && !escaped then some 0
      else (freeQuote? quote (c = '\\') rest).map (· + 1)

def lastQuote? (quote : Char) : List Char → Option Nat
  | [] => none
  | c :: rest =>
      match lastQuote? quote rest with
      | some position => some (position + 1)
      | none => if c = quote then some 0 else none

/-- Cuts a text at its closing quote: the first that is not escaped, or the last if
all are. -/
def cutQuoted? (quote : Char) (text : List Char) : Option (List Char × List Char) :=
  let closing := (freeQuote? quote false text).orElse fun _ => lastQuote? quote text
  closing.map fun position => (text.take position, text.drop (position + 1))

/-- Replaces escapes; `meaning` gives the character of an escape letter. -/
def replaceEscapes (meaning : Char → Option Char) : List Char → List Char
  | [] => []
  | [c] => [c]
  | c :: letter :: rest =>
      match (if c = '\\' then meaning letter else none) with
      | some replaced => replaced :: replaceEscapes meaning rest
      | none => c :: replaceEscapes meaning (letter :: rest)

def singleEscape? (letter : Char) : Option Char :=
  if letter = '\\' || letter = '\'' then some letter else none

def doubleEscape? : Char → Option Char
  | '\\' => some '\\'
  | '\'' => some '\''
  | '"' => some '"'
  | 'a' => some '\x07'
  | 'b' => some '\x08'
  | 'f' => some '\x0c'
  | 'n' => some '\n'
  | 'r' => some '\r'
  | 't' => some '\t'
  | 'v' => some '\x0b'
  | _ => none

/-- A value without the comment at its end, which follows a blank. -/
def dropComment : List Char → List Char
  | [] => []
  | c :: rest =>
      if isBlank c && (rest.dropWhile isBlank).head? = some '#' then []
      else c :: dropComment rest

/-- The value at the start of a text, and what follows it; `none` if a quote is not
closed. -/
def readValue? (text : List Char) : Option (List Char × List Char) :=
  match text with
  | '\'' :: rest => (cutQuoted? '\'' rest).map fun (value, rest) =>
      (replaceEscapes singleEscape? value, rest)
  | '"' :: rest => (cutQuoted? '"' rest).map fun (value, rest) =>
      (replaceEscapes doubleEscape? value, rest)
  | _ =>
      let line := text.takeWhile (· != '\n')
      some (trimEnd (dropComment line), text.drop line.length)

/-- The name at the start of a text, if a comment does not start there, and what
follows it; `none` if there is no name. -/
def readName? (text : List Char) : Option (Option String × List Char) :=
  match text with
  | '#' :: _ => some (none, text)
  | '\'' :: rest =>
      let name := rest.takeWhile (· != '\'')
      if name.isEmpty || name.length = rest.length then none
      else some (some (.ofList name), rest.drop (name.length + 1))
  | _ =>
      let name := text.takeWhile fun c => !(c = '=' || c = '#' || isBlank c)
      if name.isEmpty then none else some (some (.ofList name), text.drop name.length)

/-- What follows a binding up to the end of its line, where a comment may stand;
`false` if something else stands there. -/
def finishLine (text : List Char) : Bool × List Char :=
  let text := match skipInline text with
    | '#' :: rest => rest.dropWhile (· != '\n')
    | _ => text
  match skipInline text with
  | [] => (true, [])
  | '\n' :: rest => (true, rest)
  | _ => (false, dropLine text)

/-- The binding at the start of a text, if there is one, and what follows it. -/
def readBinding (text : List Char) : Option Binding × List Char :=
  let text := skipExport (trimStart text)
  match readName? text with
  | none => (none, dropLine text)
  | some (name?, rest) =>
      let finish (value : Option String) (rest : List Char) : Option Binding × List Char :=
        let (complete, rest) := finishLine rest
        (if complete then name?.map (·, value) else none, rest)
      match skipInline rest with
      | '=' :: rest =>
          let rest := skipInline rest
          match readValue? rest with
          | some (value, rest) => finish (some (.ofList value)) rest
          | none => (none, dropLine rest)
      | rest => finish none rest

/-- The bindings of a text, read at most `fuel` times. -/
def readBindings : (fuel : Nat) → List Char → List Binding
  | 0, _ => []
  | fuel + 1, text =>
      if text.isEmpty then []
      else
        let (binding, rest) := readBinding text
        binding.toList ++ readBindings fuel rest

/-- A reference to a name, after its dollar sign and brace: the name, the value to use
if it has none, and the number of characters the reference takes. -/
def reference? (text : List Char) : Option (String × String × Nat) :=
  let name := text.takeWhile fun c => c != '\x7d' && c != ':'
  match text.drop name.length with
  | '\x7d' :: _ => some (.ofList name, "", name.length + 1)
  | ':' :: '-' :: rest =>
      let standard := rest.takeWhile (· != '\x7d')
      if standard.length = rest.length then none
      else some (.ofList name, .ofList standard, name.length + standard.length + 3)
  | _ => none

/-- Replaces references by values.  `skip` characters have been taken already. -/
def replaceReferences (value? : String → Option String) : (skip : Nat) → List Char → List Char
  | _, [] => []
  | skip + 1, _ :: rest => replaceReferences value? skip rest
  | 0, c :: rest =>
      match (if c = '$' && rest.head? = some '\x7b' then reference? (rest.drop 1) else none) with
      | some (name, standard, length) =>
          ((value? name).getD standard).toList ++ replaceReferences value? (length + 1) rest
      | none => c :: replaceReferences value? 0 rest

/-- Replaces the references of bindings in order.  A name that the file has bound
comes before a variable of the environment. -/
def resolveBindings (environment : Table String) (bound : Table (Option String)) :
    List Binding → Table (Option String)
  | [] => bound
  | (name, value) :: bindings =>
      let value? (name : String) : Option String :=
        match bound.get? name with
        | some known => some (known.getD "")
        | none => environment.get? name
      let resolved := value.map fun text => .ofList (replaceReferences value? 0 text.toList)
      resolveBindings environment (bound.put name resolved) bindings

def readEnvFile (environment : Table String) (text : List Char) : Table (Option String) :=
  resolveBindings environment [] (readBindings (text.length + 1) text)

end RouteScribe.Settings
