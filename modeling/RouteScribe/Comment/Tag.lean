import RouteScribe.Text.Blank

/-!
# Tags

A tag line reads `@kind {type} name inline text`, where everything after the
kind may be absent.  The type stands in balanced curly braces; after a type the
name may be a second balanced group.  The lines that follow a tag line belong
to it as its continuation.
-/

namespace RouteScribe.Comment

open RouteScribe.Text

/-- One tag of a documentation comment. -/
structure Tag where
  /-- The word after the at sign. -/
  kind : String
  /-- The content of the first braces, if it is not blank. -/
  type : Option String
  name : String
  /-- The text after the name on the tag line. -/
  inline : String
  /-- The following lines without their shared indentation. -/
  continuation : String
  /-- The line of the tag inside the comment, counted from zero. -/
  line : Nat
  /-- The tag line and its continuation as they were written. -/
  source : String
  deriving DecidableEq, Repr

/-- Inline text and continuation on separate lines, without an empty one. -/
def Tag.description (tag : Tag) : String :=
  "\n".intercalate ([tag.inline, tag.continuation].filter (· ≠ ""))

/-- The index of the brace that brings the nesting depth back to zero, where
`depth` is reached at `index`. -/
def closingBraceFrom (depth : Int) (index : Nat) : List Char → Option Nat
  | [] => none
  | '{' :: rest => closingBraceFrom (depth + 1) (index + 1) rest
  | '}' :: rest =>
      if depth - 1 = 0 then some index else closingBraceFrom (depth - 1) (index + 1) rest
  | _ :: rest => closingBraceFrom depth (index + 1) rest

/-- The index of the brace that closes the first open one. -/
def closingBrace? (text : List Char) : Option Nat :=
  closingBraceFrom 0 0 text

/-- Splits a text that starts with a balanced group into the inside of the group
and what follows it. -/
def splitGroup? (text : List Char) : Option (List Char × List Char) :=
  match text with
  | '{' :: inside => do
      let last ← closingBrace? text
      return (inside.take (last - 1), text.drop (last + 1))
  | _ => none

/-- The parts of a tag line after its kind. -/
structure TagBody where
  type : Option String
  name : String
  inline : String
  deriving DecidableEq, Repr

/-- Splits off a leading type.  Braces around nothing but blanks are dropped and
give no type. -/
def splitType (text : List Char) : Option (List Char) × List Char :=
  match splitGroup? text with
  | some (inside, rest) =>
      let type := trim inside
      (if type.isEmpty then none else some type, trim rest)
  | none => (none, text)

/-- Splits off the name: a balanced group with its braces, or else a word. -/
def splitName (text : List Char) : List Char × List Char :=
  match splitGroup? text with
  | some (inside, rest) => ('{' :: inside ++ ['}'], trim rest)
  | none =>
      let (word, rest) := firstWord text
      (word, trim rest)

/-- Splits the text after the kind of a tag line. -/
def TagBody.ofText (text : List Char) : TagBody :=
  let (type, rest) := splitType (trim text)
  let (name, inline) := splitName rest
  { type := type.map .ofList, name := .ofList name, inline := .ofList inline }

end RouteScribe.Comment
