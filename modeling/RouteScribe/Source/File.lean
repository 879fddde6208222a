import RouteScribe.Project.Path
import RouteScribe.Source.Parser
import RouteScribe.Text.Utf8

/-!
# Source files

A source file holds its syntax tree together with its comments and code tokens,
so that the comment written right before a node can be found.
-/

namespace RouteScribe.Source

open RouteScribe.Project RouteScribe.Text

structure SourceFile where
  path : Path
  lines : List String
  module : Module
  comments : List Comment
  /-- The tokens that are code, in order. -/
  code : List Token

/-- A comment block in front of a node, with the line of its first comment counted
from zero. -/
structure LeadingComment where
  line : Nat
  text : String
  deriving DecidableEq, Repr

namespace SourceFile

/-- Reads a source file; `none` if its text is no program. -/
def read? (path : Path) (text : String) : Option SourceFile := do
  let chars := text.toList
  let lexed ← lex? chars
  let module ← moduleOfTokens? (depthBound chars) lexed.tokens
  return {
    path
    lines := (splitLines chars).map String.ofList
    module
    comments := lexed.comments
    code := lexed.tokens.filter Token.isCode }

/-- The place of a node, with its byte offset turned into a column.  The line is
looked up among all lines of the text. -/
def position (file : SourceFile) (start : NodeStart) : Position :=
  let line := (file.lines[start.line - 1]?).getD ""
  ⟨start.line, Utf8.columnOfByte start.byte line.toList⟩

/-- Where a node begins as its comment sees it: at its own start, or at the sign
of a decorator right before it; and the code token before that, if any. -/
def anchor (file : SourceFile) (start : NodeStart) : Position × Option Token :=
  let place := file.position start
  match (file.code.takeWhile (·.start.before place)).reverse with
  | [] => (place, none)
  | token :: earlier =>
      if token.kind = .symbol "@" then (token.start, earlier.head?) else (place, some token)

/-- The comments between the code before a node and the node.  Comments on the
last line of that code belong to the code. -/
def commentsBefore (file : SourceFile) (start : NodeStart) : List Comment :=
  let (place, previous) := file.anchor start
  file.comments.filter fun comment =>
    comment.start.before place &&
      match previous with
      | none => true
      | some token => token.stop.line < comment.start.line

def commentAt (comments : List Comment) (line : Nat) : String :=
  match comments.reverse.find? (·.start.line = line) with
  | some comment => comment.text
  | none => ""

/-- The comment block in front of a node.  Lines without a comment between its
first and its last one stay as empty lines. -/
def leadingComment (file : SourceFile) (start : NodeStart) : Option LeadingComment :=
  let comments := file.commentsBefore start
  match comments.head?, comments.getLast? with
  | some first, some last =>
      let lines := List.range' first.start.line (last.start.line + 1 - first.start.line)
      some ⟨first.start.line - 1, "\n".intercalate (lines.map (commentAt comments))⟩
  | _, _ => none

end SourceFile

end RouteScribe.Source
