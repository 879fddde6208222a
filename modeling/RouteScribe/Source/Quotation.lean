import RouteScribe.Json.Writer
import RouteScribe.Source.Literal
import RouteScribe.Number.Shortest
import RouteScribe.Text.Quoted
import RouteScribe.Text.Search

/-!
# Literals as source text

A string literal is written with single quotes where that needs no more escapes
than double quotes.  Inside a field of a formatted text a backslash is not
allowed, so there a kind of quotes is looked for that needs none.
-/

namespace RouteScribe.Source

open RouteScribe.Json RouteScribe.Number RouteScribe.Text

/-- The quotes around a string literal, those preferred coming first. -/
def quoteKinds : List (List Char) :=
  ["'".toList, "\"".toList, "\"\"\"".toList, "'''".toList]

/-- A character of a string literal with few escapes.  Line feeds and tabs are kept
unless `escapeBlanks` says otherwise. -/
def spareEscape (escapeBlanks : Bool) (c : Char) : List Char :=
  if !escapeBlanks && (c = '\n' || c = '\t') then [c] else escapeChar '\\' c

/-- A text between some kind of quotes, and the kinds that fit it. -/
structure Quotation where
  inside : List Char
  kinds : List (List Char)

/-- Writes a text with one of some kinds of quotes, so that no quote needs an
escape.  Where no kind fits, quotes are escaped. -/
def Quotation.sparing (kinds : List (List Char)) (escapeBlanks : Bool) (text : List Char) :
    Quotation :=
  let inside := text.flatMap (spareEscape escapeBlanks)
  let spanning := if inside.contains '\n' then kinds.filter (1 < ·.length) else kinds
  let fitting := spanning.filter fun kind => !occursIn kind inside
  match fitting, inside.getLast? with
  | [], _ =>
      let quote := quoteFor text
      { inside := text.flatMap (escapeChar quote)
        kinds := [(kinds.find? (·.contains quote)).getD [quote]] }
  | _, none => { inside, kinds := fitting }
  | _, some last =>
      let (clashing, apart) := fitting.partition (·.head? = some last)
      let kinds := apart ++ clashing
      if apart.isEmpty then { inside := inside.dropLast ++ ['\\', last], kinds }
      else { inside, kinds }

/-- The inside of a quotation between the preferred quotes. -/
def Quotation.text (quotation : Quotation) : String :=
  let quotes := quotation.kinds.head?.getD []
  .ofList (quotes ++ quotation.inside ++ quotes)

/-- A part of a formatted text as it stands in the source; `isPlain` says that it
is no field. -/
structure WrittenPart where
  text : List Char
  isPlain : Bool

/-- The parts of a formatted text, written with quotes that fit all of them;
`none` if there are no such quotes. -/
def quoteParts? (kinds : List (List Char)) : List WrittenPart → Option Quotation
  | [] => some { inside := [], kinds }
  | part :: parts => do
      let quotation := Quotation.sparing kinds part.isPlain part.text
      if quotation.kinds.any kinds.contains then
        let others ← quoteParts? quotation.kinds parts
        return { others with inside := quotation.inside ++ others.inside }
      else none

/-- A formatted text after its mark. -/
def quoteFormatted (parts : List WrittenPart) : String :=
  match quoteParts? quoteKinds parts with
  | some quotation => quotation.text
  | none =>
      let inside := parts.flatMap fun part => part.text.flatMap (escapeChar '\'')
      Quotation.text { inside, kinds := ["'''".toList] }

/-- How the infinite and undefined numbers are written down. -/
def writtenNumbers : SpecialNames where
  notANumber := "(1e309-1e309)"
  infinity := "1e309"

/-- A literal as it is written in the source, or in a field of a formatted text. -/
def Literal.print (inField : Bool) : Literal → String
  | .none => "None"
  | .ellipsis => "..."
  | .bool true => "True"
  | .bool false => "False"
  | .int whole => toString whole.value
  | .float value => value.text writtenNumbers
  | .imaginary part => part.imaginaryText writtenNumbers
  | .str text marked =>
      let body :=
        if inField then (Quotation.sparing quoteKinds false text.toList).text else quoted text
      if marked then "u" ++ body else body
  | .bytes content => quotedBytes content

def Literal.display : Literal → String
  | .none => "None"
  | .ellipsis => Foreign.ellipsis.display
  | .bool value => if value then "True" else "False"
  | .int whole => toString whole.value
  | .float value => value.text displayNumbers
  | .imaginary part => (Foreign.imaginary part).display
  | .str text _ => quoted text
  | .bytes content => quotedBytes content

end RouteScribe.Source
