import RouteScribe.Comment.Tag
import RouteScribe.Text.Alphanumeric
import RouteScribe.Text.Dedent

/-!
# Documentation comments

A documentation comment is a block of `#` lines.  The text before its first tag
holds the title, on the first line, and the description.  Every tag takes the
lines up to the next tag, so each line of the comment belongs to exactly one
part.
-/

namespace RouteScribe.Comment

open RouteScribe.Text

/-- A line of a comment without its `#` marks and one space after them, and
without blanks at the end.  A line without a mark is trimmed on both sides. -/
def stripMarks (line : List Char) : List Char :=
  match trimStart line with
  | '#' :: rest =>
      match rest.dropWhile (· = '#') with
      | ' ' :: content => trimEnd content
      | content => trimEnd content
  | content => trimEnd content

/-- The lines of a comment without their marks. -/
def contentLines (text : List Char) : List (List Char) :=
  (splitLines text).map stripMarks

/-- Characters that may follow the first letter of a tag's kind. -/
def isKindChar (c : Char) : Bool :=
  isWordChar c || c = '-'

/-- The kind of a tag line and the text after it; `none` if the line is no tag
line.  A kind starts with a letter of the basic alphabet. -/
def tagLine? : List Char → Option (List Char × List Char)
  | '@' :: letter :: rest =>
      if letter.isAlpha then
        some (letter :: rest.takeWhile isKindChar, rest.dropWhile isKindChar)
      else none
  | _ => none

/-- A tag line with the lines up to the next tag line. -/
structure Section where
  line : Nat
  head : List Char
  kind : List Char
  body : List Char
  following : List (List Char)
  deriving DecidableEq, Repr

/-- Splits lines into those before the first tag line and one section for each
tag line.  The first line has the given number. -/
def splitSections : (line : Nat) → List (List Char) → List (List Char) × List Section
  | _, [] => ([], [])
  | line, content :: rest =>
      let (free, sections) := splitSections (line + 1) rest
      match tagLine? (trim content) with
      | some (kind, body) =>
          ([], { line, head := trim content, kind, body, following := free } :: sections)
      | none => (content :: free, sections)

/-- Removes the line feeds at both ends. -/
def trimNewlines (text : List Char) : List Char :=
  dropEndWhile (· = '\n') (text.dropWhile (· = '\n'))

def Section.toTag (part : Section) : Tag :=
  let body := TagBody.ofText part.body
  { kind := .ofList part.kind
    type := body.type
    name := body.name
    inline := body.inline
    continuation := .ofList (trimNewlines (dedent (joinLines part.following)))
    line := part.line
    source := .ofList (trimEnd (joinLines (part.head :: part.following))) }

/-- A documentation comment. -/
structure DocComment where
  title : String
  description : String
  tags : List Tag
  deriving DecidableEq, Repr

def DocComment.tagsOf (comment : DocComment) (kind : String) : List Tag :=
  comment.tags.filter (·.kind = kind)

/-- The text up to the first line feed, and the text after it if there is one. -/
def splitFirstLine (text : List Char) : List Char × Option (List Char) :=
  (text.takeWhile (· != '\n'),
    match text.dropWhile (· != '\n') with
    | [] => none
    | _ :: rest => some rest)

/-- Title and description of the text before the first tag. -/
def splitHeading (free : List (List Char)) : List Char × List Char :=
  let (title, rest) := splitFirstLine (trim (dedent (joinLines free)))
  (trim title, trim (rest.getD []))

/-- Reads a documentation comment; `none` if all of its lines are blank. -/
def DocComment.parse? (text : String) : Option DocComment :=
  let lines := contentLines text.toList
  if lines.all isBlankText then none
  else
    let (free, sections) := splitSections 0 lines
    let (title, description) := splitHeading free
    some
      { title := .ofList title
        description := .ofList description
        tags := sections.map Section.toTag }

end RouteScribe.Comment
