import RouteScribe.CommandLine.Usage
import RouteScribe.Text.Digit

/-!
# Reading arguments

An argument that starts with a dash is an option, unless it is a negative number,
holds a blank or comes after a double dash.  Long options may be shortened as long
as they are not mistaken for another, and short ones may be written together.  The
paths of the program are the first arguments in a row that are no options.
-/

namespace RouteScribe.CommandLine

open RouteScribe.Text

inductive Argument where
  | operand (text : String)
  /-- The double dash, after which all arguments are operands. -/
  | separator
  /-- An option with the text after its name, which an equals sign may start. -/
  | option (flag : Flag) (isShort : Bool) (attached : List Char)
  | unknown (text : String)
  deriving DecidableEq, Repr

def flagOf? (name : String) : Option Flag :=
  List.lookup name flagNames

/-- The parts of a text before its first equals sign and from it on. -/
def cutAtSign (text : List Char) : List Char × List Char :=
  (text.takeWhile (· != '='), text.dropWhile (· != '='))

def isLongName (name : List Char) : Bool :=
  "--".toList.isPrefixOf name

def meanings (text : List Char) : List (String × Argument) :=
  if isLongName text then
    let (start, attached) := cutAtSign text
    (flagNames.filter fun (name, _) => start.isPrefixOf name.toList).map fun (name, flag) =>
      (name, .option flag (!isLongName name.toList) attached)
  else
    flagNames.filterMap fun (name, flag) =>
      if name.toList = text.take 2 then
        some (name, .option flag true (text.drop 2))
      else none

/-- Whether a text is a non-empty run of decimal digits. -/
def isDecimal (text : List Char) : Bool :=
  !text.isEmpty && text.all fun c => (decimalValue? c).isSome

/-- Whether a text looks like a negative number. -/
def isNegativeNumber : List Char → Bool
  | '-' :: rest =>
      let digits := rest.takeWhile fun c => (decimalValue? c).isSome
      match rest.drop digits.length with
      | [] => isDecimal rest
      | '.' :: fraction => isDecimal fraction
      | _ => false
  | _ => false

def classify (text : String) : Except Misuse Argument :=
  let chars := text.toList
  if chars.head? ≠ some '-' || chars.length = 1 then .ok (.operand text)
  else
    let (name, attached) := cutAtSign chars
    match flagOf? (.ofList name), meanings chars with
    | some flag, _ => .ok (.option flag (!isLongName name) attached)
    | none, [(_, option)] => .ok option
    | none, [] =>
        if isNegativeNumber chars || chars.contains ' ' then .ok (.operand text)
        else .ok (.unknown text)
    | none, several => .error (.ambiguous text (several.map Prod.fst))

def classifyAll : List String → Except Misuse (List Argument)
  | [] => .ok []
  | text :: texts =>
      if text = "--" then .ok (.separator :: texts.map .operand)
      else do
        let argument ← classify text
        let arguments ← classifyAll texts
        return argument :: arguments

/-- The options that one argument holds. -/
structure Cluster where
  /-- The options with the values attached to them. -/
  options : List (Flag × Option String) := []
  /-- The last option, if it has no value attached. -/
  last : Option Flag := none
  /-- What is left over. -/
  extra : Option String := none

/-- Puts an option in front of a cluster. -/
def Cluster.cons (flag : Flag) (cluster : Cluster) : Cluster :=
  { cluster with options := (flag, none) :: cluster.options }

/-- The value in the text after the name of an option. -/
def attachedValue (attached : List Char) : String :=
  .ofList (if attached.head? = some '=' then attached.drop 1 else attached)

/-- Takes apart an option with a text after its name.  The text after a short option
that needs no value holds further short options. -/
def readCluster (flag : Flag) (isShort : Bool) : (attached : List Char) → Except Misuse Cluster
  | [] => .ok { last := some flag }
  | c :: rest =>
      let value := attachedValue (c :: rest)
      if flag.takesValue then .ok { options := [(flag, some value)] }
      else if !isShort || c = '=' || c = '-' then .error (.ignoredValue flag value)
      else
        match flagOf? (.ofList ['-', c]) with
        | none => .ok { options := [(flag, none)], extra := some (.ofList ('-' :: c :: rest)) }
        | some next => (readCluster next true rest).map (.cons flag)

structure Arguments where
  project : Option String := none
  watch : Bool := false
  logLevel : Option String := none
  paths : List String := []
  deriving DecidableEq, Repr

/-- Why the arguments ask for nothing more. -/
inductive Stop where
  | help
  | misuse (misuse : Misuse)
  deriving DecidableEq, Repr

/-- The state while arguments are read: `hasPaths` says that the paths have been
read, and `extras` are the texts that nobody wants. -/
structure Reading where
  arguments : Arguments := {}
  hasPaths : Bool := false
  extras : List String := []

def Reading.apply (reading : Reading) (flag : Flag) (value : Option String) :
    Except Stop Reading :=
  let arguments := reading.arguments
  match flag with
  | .help => .error .help
  | .project => .ok { reading with arguments := { arguments with project := value } }
  | .watch => .ok { reading with arguments := { arguments with watch := true } }
  | .logLevel => .ok { reading with arguments := { arguments with logLevel := value } }

def Reading.applyAll (reading : Reading) : List (Flag × Option String) → Except Stop Reading
  | [] => .ok reading
  | (flag, value) :: options => do
      let reading ← reading.apply flag value
      reading.applyAll options

/-- Reads a row of operands: as the paths, or as texts that nobody wants. -/
def Reading.operands (reading : Reading) (texts : List String) : Reading :=
  if texts.isEmpty then reading
  else if reading.hasPaths then { reading with extras := reading.extras ++ texts }
  else
    { reading with
      hasPaths := true
      arguments := { reading.arguments with paths := texts.erase "--" } }

/-- Adds a text that nobody wants. -/
def Reading.reject (reading : Reading) (extra : Option String) : Reading :=
  { reading with extras := reading.extras ++ extra.toList }

/-- Reads arguments.  `row` holds the operands right before them. -/
def readFrom (reading : Reading) (row : List String) : List Argument → Except Stop Reading
  | [] => .ok (reading.operands row)
  | .operand text :: arguments => readFrom reading (row ++ [text]) arguments
  | .separator :: arguments => readFrom reading (row ++ ["--"]) arguments
  | .unknown text :: arguments => readFrom ((reading.operands row).reject (some text)) [] arguments
  | .option flag isShort attached :: arguments =>
      match readCluster flag isShort attached with
      | .error misuse => .error (.misuse misuse)
      | .ok cluster =>
          let reading := (reading.operands row).reject cluster.extra
          match cluster.last with
          | none => do readFrom (← reading.applyAll cluster.options) [] arguments
          | some last =>
              if last.takesValue then
                match arguments with
                | .operand value :: arguments => do
                    let options := cluster.options ++ [(last, some value)]
                    readFrom (← reading.applyAll options) [] arguments
                | _ => .error (.misuse (.missingValue last))
              else do
                readFrom (← reading.applyAll (cluster.options ++ [(last, none)])) [] arguments

def Arguments.read (texts : List String) : Except Stop Arguments := do
  let arguments ← (classifyAll texts).mapError .misuse
  let reading ← readFrom {} [] arguments
  if reading.extras.isEmpty then return reading.arguments
  else throw (.misuse (.unrecognized reading.extras))

end RouteScribe.CommandLine
