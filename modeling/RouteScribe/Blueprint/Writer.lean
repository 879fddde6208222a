import RouteScribe.Blueprint.Document
import RouteScribe.Json.Writer
import RouteScribe.Text.Blank

/-!
# Writing a blueprint

A blueprint is written from front to back: a header, then one section for each
router.  A payload without a JSON text ends the writing at that point, and what
was written before it stands.
-/

namespace RouteScribe.Blueprint

open RouteScribe.Json RouteScribe.Text

/-- Text written so far, and whether the writing can go on. -/
structure Written where
  text : String
  complete : Bool
  deriving DecidableEq, Repr

namespace Written

def done (text : String) : Written :=
  ⟨text, true⟩

/-- Writing that stops before it has written anything. -/
def stopped : Written :=
  ⟨"", false⟩

/-- Goes on with further text, unless the writing has stopped. -/
def andThen (first second : Written) : Written :=
  if first.complete then ⟨first.text ++ second.text, second.complete⟩ else first

/-- Writes pieces one after the other. -/
def all : List Written → Written
  | [] => done ""
  | piece :: pieces => piece.andThen (all pieces)

end Written

/-- Puts a margin in front of every line of a text. -/
def indentText (text margin : String) : String :=
  .ofList (joinLines ((splitNewlines text.toList).map (margin.toList ++ ·)))

def sectionMargin : String := "    "

def payloadMargin : String := "            "

/-- A payload as text: a string stands for itself, everything else is written as
JSON with sorted keys. -/
def payloadText? : Value → Option String
  | .str text => some text
  | value => value.pretty?

/-- The lines of a payload after an empty line. -/
def writePayload (value : Value) : Written :=
  match payloadText? value with
  | some text => .done ("\n" ++ indentText text payloadMargin ++ "\n")
  | none => .stopped

def writeSection (heading : String) : Option Value → Written
  | some value =>
      (Written.done ("\n" ++ sectionMargin ++ "+ " ++ heading ++ "\n")).andThen (writePayload value)
  | none => .done ""

def present? : Value → Option Value
  | .null => none
  | value => some value

def nonEmpty? (text : Option String) : Option String :=
  text.filter (· ≠ "")

/-- The content type that a blueprint leaves out. -/
def implicitType : String := "text/plain"

/-- A content type in parentheses after a blank, or nothing. -/
def typeSuffix : Option String → String
  | some type => " (" ++ type ++ ")"
  | none => ""

def writeResponse (response : Response) : Written :=
  let type := (nonEmpty? response.type).filter (· ≠ implicitType)
  .all
    [.done ("\n+ Response " ++ toString response.code ++ typeSuffix type ++ "\n"),
      writeSection "Body" (present? response.body),
      writeSection "Schema" response.schema]

def writeBody (title : String) (body : RequestBody) : Written :=
  let heading := onString trimEnd ("\n+ Request " ++ title)
  (Written.done (heading ++ typeSuffix (nonEmpty? body.type) ++ "\n")).andThen
    (match present? body.body with
    | some value => writePayload value
    | none => .done "")

/-- A text with its line feeds turned into blanks. -/
def onOneLine (text : String) : String :=
  .ofList (joinWith ' ' (splitNewlines text.toList))

def paramText (param : Param) : String :=
  "  + " ++ param.name ++ ": " ++ encodeParam param.place param.sample ++ " (required, " ++
    param.type ++ ") - " ++ onOneLine param.description ++ "\n"

def paramsText (params : List Param) : String :=
  if params.isEmpty then "" else "\n+ Parameters\n" ++ String.join (params.map paramText)

def writeBlock (block : Block) : Written :=
  .all
    ([.done ("\n### " ++ block.title ++ " [" ++ block.method.toUpper ++ "]\n" ++
        block.description ++ "\n" ++ paramsText block.params),
      (block.body.map (writeBody block.title)).getD (.done "")] ++
      block.responses.map writeResponse)

def queryNames (group : Group) : List String :=
  let names := group.methods.flatMap fun block =>
    (block.params.filter (·.place = .query)).map (·.name)
  names.foldl (fun seen name => if seen.contains name then seen else seen ++ [name]) []

def groupAddress (leading : String) (group : Group) : String :=
  let url := joinPath leading (formatPath group.path)
  let names := queryNames group
  if names.isEmpty then url else url ++ inBraces ("?" ++ ",".intercalate names)

def writeGroup (leading : String) (group : Group) : Written :=
  .all
    (.done ("\n## " ++ group.path ++ " [" ++ groupAddress leading group ++ "]\n") ::
      group.methods.map writeBlock)

def writeRouter (router : Router) : Written :=
  .all
    (.done ("\n# Group " ++ router.title ++ "\n" ++ router.description.getD "" ++ "\n") ::
      router.routes.map (writeGroup router.path))

def headerText (host title description : Option String) : String :=
  "FORMAT: 1A\n" ++
    ((nonEmpty? host).map fun host => "HOST: " ++ host ++ "\n").getD "" ++ "\n" ++
    ((nonEmpty? title).map fun title => "# " ++ title ++ "\n\n").getD "" ++
    description.getD "" ++ "\n"

end RouteScribe.Blueprint
