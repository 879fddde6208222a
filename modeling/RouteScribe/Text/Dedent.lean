import RouteScribe.Text.Blank
import RouteScribe.Text.Line

/-!
# Common indentation

`dedent` removes the longest run of spaces and tabs that starts every line with
content, and empties lines made of spaces and tabs only.  `cleanDocstring` lays
out a documentation string: its first line is trimmed on the left, the smallest
indentation of the other lines is removed, and empty lines at both ends go.
-/

namespace RouteScribe.Text

/-- Spaces and tabs, the characters that make up an indentation. -/
def isIndent (c : Char) : Bool :=
  c = ' ' || c = '\t'

/-- The longest common start of two texts. -/
def commonStart : List Char → List Char → List Char
  | a :: as, b :: bs => if a = b then a :: commonStart as bs else []
  | _, _ => []

/-- A line made of spaces and tabs only counts as empty. -/
def clearIndent (line : List Char) : List Char :=
  if line.all isIndent then [] else line

def sharedIndent (lines : List (List Char)) : List Char :=
  match (lines.filter (!·.isEmpty)).map (·.takeWhile isIndent) with
  | [] => []
  | indent :: indents => indents.foldl commonStart indent

def dropMargin (margin line : List Char) : List Char :=
  if margin.isPrefixOf line then line.drop margin.length else line

/-- Removes the shared indentation from lines. -/
def dedentLines (lines : List (List Char)) : List (List Char) :=
  let cleared := lines.map clearIndent
  cleared.map (dropMargin (sharedIndent cleared))

/-- Removes the shared indentation from the lines of a text. -/
def dedent (text : List Char) : List Char :=
  joinLines (dedentLines (splitNewlines text))

/-- Replaces each tab by the spaces up to the next multiple of eight columns,
counted from the given column. -/
def expandTabs : (column : Nat) → List Char → List Char
  | _, [] => []
  | column, c :: rest =>
      if c = '\t' then
        let width := 8 - column % 8
        List.replicate width ' ' ++ expandTabs (column + width) rest
      else if c = '\n' ∨ c = '\r' then c :: expandTabs 0 rest
      else c :: expandTabs (column + 1) rest

/-- The width of the blank start of a line; `none` for a blank line. -/
def indentWidth? (line : List Char) : Option Nat :=
  let content := trimStart line
  if content.isEmpty then none else some (line.length - content.length)

/-- Lays out a documentation string. -/
def cleanDocstring (text : List Char) : List Char :=
  match splitNewlines (expandTabs 0 text) with
  | [] => []
  | first :: others =>
      let margin := ((others.filterMap indentWidth?).min?).getD 0
      let lines := trimStart first :: others.map (·.drop margin)
      joinLines ((dropEndWhile List.isEmpty lines).dropWhile List.isEmpty)

end RouteScribe.Text
