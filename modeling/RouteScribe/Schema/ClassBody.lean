import RouteScribe.Source.Printer
import RouteScribe.Text.Blank
import RouteScribe.Text.Dedent

/-!
# What a class body says about its schema

The annotated fields of a class with the notes after them, its docstring, and the
settings that let it hold further entries.
-/

namespace RouteScribe.Source

/-- The last part of a dotted name; any other expression stands for its text. -/
def Expr.simpleName : Expr → String
  | .name id => id
  | .attribute _ member => member
  | expr => expr.text

/-- The simple name of what is subscripted, or of the expression itself. -/
def Expr.genericName : Expr → String
  | .subscript value _ => value.simpleName
  | expr => expr.simpleName

/-- The arguments between the brackets of a subscript. -/
def Expr.subscriptArgs : Expr → List Expr
  | .tuple elements => elements
  | index => [index]

def Expr.literal? : Expr → Option Literal
  | .literal value => some value
  | _ => none

def Expr.string? (expr : Expr) : Option String :=
  expr.literal?.bind Literal.text?

/-- The keyword argument of a name; the first one counts. -/
def keywordValue? (keywords : List Keyword) (name : String) : Option Expr :=
  (keywords.find? (·.name = some name)).map Keyword.value

end RouteScribe.Source

namespace RouteScribe.Schema

open RouteScribe.Source RouteScribe.Text

structure Field where
  name : String
  hint : Expr
  hasDefault : Bool
  /-- The trimmed text that follows the field, or nothing. -/
  note : String

def leadingText : List Stmt → Option String
  | .expression value :: _ => value.string?
  | _ => none

/-- Whether a name with an annotation is a field: private names, settings and
class variables are none. -/
def isField (name : String) (hint : Expr) : Bool :=
  !name.startsWith "_" && name ≠ "model_config" && hint.genericName ≠ "ClassVar"

def fieldsOf : List Stmt → List Field
  | [] => []
  | .annotated _ (.name name) hint value :: rest =>
      if isField name hint then
        { name, hint, hasDefault := value.isSome
          note := trimString ((leadingText rest).getD "") } :: fieldsOf rest
      else fieldsOf rest
  | _ :: rest => fieldsOf rest

/-- The docstring of a class without its indentation; an empty one counts as
none. -/
def docstring? (body : List Stmt) : Option String :=
  match leadingText body with
  | none => none
  | some text =>
      let cleaned := String.ofList (cleanDocstring text.toList)
      if cleaned = "" then none else some cleaned

/-- Whether a value is the word that lets a class hold further entries. -/
def isAllow (value : Expr) : Bool :=
  value.string? = some "allow"

/-- Whether settings in the form of a call or a dictionary allow further entries. -/
def settingsAllow : Expr → Bool
  | .call _ _ _ keywords =>
      keywords.any fun keyword => keyword.name = some "extra" && isAllow keyword.value
  | .dict entries =>
      entries.any fun
        | .pair key value => key.string? = some "extra" && isAllow value
        | .unpack _ => false
  | _ => false

/-- Whether a class allows further entries, by a keyword or by its settings. -/
def allowsExtra (definition : ClassDef) : Bool :=
  (keywordValue? definition.keywords "extra").any isAllow ||
    definition.body.any fun
      | .assign _ targets value =>
          (targets.any fun
            | .name id => id = "model_config"
            | _ => false) && settingsAllow value
      | _ => false

/-- The values of an enumeration: literals as they are, other members by name. -/
def enumValues (body : List Stmt) : List Json.Value :=
  body.filterMap fun
    | .assign _ [.name member] value =>
        if member.startsWith "_" then none
        else some (((value.literal?).map Literal.toValue).getD (.str member))
    | _ => none

end RouteScribe.Schema
