import RouteScribe.Json.Writer
import RouteScribe.Schema.Basic
import RouteScribe.Schema.TypeTable
import RouteScribe.Source.Coverage

/-!
# Resolving types

A type name or a type expression is turned into a schema with the help of a type
table.  Classes are written out where they are used, so a type that contains
itself has no schema: the names that are being resolved form a stack, and a name
on the stack cannot be entered again.

The rules for expressions and classes contain one another.  They are ordinary
functions of a `Resolver`, which holds the rules for whatever lies one step
deeper, and are tied together up to a depth that the table bounds.
-/

namespace RouteScribe.Schema

open RouteScribe.Json RouteScribe.Source RouteScribe.Text

inductive TypeFault where
  | notAnExpression (text : String)
  | badReference (text : String)
  | notAType (value : Literal)
  | unsupportedForm (expr : Expr)
  | unsupportedLiteral (expr : Expr)
  | recursive (name : String)
  | unknown (name : String)

def TypeFault.message : TypeFault → String
  | .notAnExpression text => "'" ++ text ++ "' is not a type expression"
  | .badReference text => "invalid forward reference '" ++ text ++ "'"
  | .notAType value => value.display ++ " is not a type"
  | .unsupportedForm expr => "unsupported type expression " ++ expr.text
  | .unsupportedLiteral expr => "unsupported Literal value " ++ expr.text
  | .recursive name => "type " ++ name ++ " is recursive"
  | .unknown name => "type " ++ name ++ " not found"

/-- What can go wrong while a type is resolved.  Only a `TypeFault` is expected of
a type; the others end the work on its file. -/
inductive ResolveError where
  | fault (fault : TypeFault)
  /-- A generic type has no argument where it needs one. -/
  | missingArgument
  /-- A member of a union is itself a choice of kinds. -/
  | nestedKinds
  /-- The depth was not sufficient. -/
  | tooDeep
  /-- A type written as text has a literal whose value is not modelled. -/
  | uncovered

abbrev Resolved (α : Type) := Except ResolveError α

/-- The failure for a text that is no type expression. -/
def ResolveError.ofText (text : String) (fault : TypeFault) : ResolveError :=
  if isCovered text then .fault fault else .uncovered

/-! ### Names with a meaning of their own -/

def primitiveTypes : Table Schema :=
  [("str", .primitive .string none), ("bytes", .primitive .string none),
    ("Path", .primitive .string none), ("datetime", .primitive .string (some "date-time")),
    ("date", .primitive .string (some "date")), ("time", .primitive .string (some "time")),
    ("UUID", .primitive .string (some "uuid")), ("EmailStr", .primitive .string (some "email")),
    ("int", .primitive .number none), ("float", .primitive .number none),
    ("Decimal", .primitive .number none), ("bool", .primitive .boolean none)]

def listTypes : List String :=
  ["list", "List", "set", "Set", "frozenset", "FrozenSet", "Sequence", "MutableSequence",
    "Iterable", "Collection", "AbstractSet", "deque", "Deque"]

def tupleTypes : List String := ["tuple", "Tuple"]

def mappingTypes : List String :=
  ["dict", "Dict", "Mapping", "MutableMapping", "defaultdict", "OrderedDict"]

def anyTypes : List String := ["Any", "object"]

/-- Types that stand for their first argument. -/
def wrapperTypes : List String := ["Annotated", "Required", "NotRequired", "ReadOnly", "Final"]

def enumBases : List String := ["Enum", "StrEnum", "IntEnum", "Flag", "IntFlag"]

def numberEnumBases : List String := ["IntEnum", "IntFlag"]

/-- An object with entries of one shape and no properties. -/
def mappingSchema (additional : Additional) : Schema :=
  .object [] [] additional none

/-- The schema of a name with a meaning of its own. -/
def builtinSchema? (name : String) : Option Schema :=
  if let some schema := primitiveTypes.get? name then some schema
  else if anyTypes.contains name then some .any
  else if listTypes.contains name || tupleTypes.contains name then some (.list .any)
  else if mappingTypes.contains name then some (mappingSchema .allowed)
  else none

/-! ### Forms of type expressions -/

def unionMembers : Expr → List Expr
  | .binary left .bitOr right => unionMembers left ++ unionMembers right
  | expr => [expr]

/-- Whether an expression is the type of nothing. -/
def isNone : Expr → Bool
  | .literal .none => true
  | .name id => id = "None"
  | _ => false

/-- Whether an annotation lets a field be absent. -/
def isOptional : Expr → Bool
  | .subscript value (.tuple []) => value.simpleName = "Optional"
  | .subscript value (.tuple (first :: others)) =>
      let base := value.simpleName
      base = "Optional" || (base = "Union" && (first :: others).any isNone) ||
        (base = "Annotated" && isOptional first)
  | .subscript value index =>
      let base := value.simpleName
      base = "Optional" || (base = "Union" && isNone index) ||
        (base = "Annotated" && isOptional index)
  | .binary left op right => (unionMembers (.binary left op right)).any isNone
  | _ => false

/-- Whether a field must be present. -/
def isRequired (total : Bool) (field : Field) : Bool :=
  let base :=
    match field.hint with
    | .subscript value _ => value.simpleName
    | _ => ""
  if base = "NotRequired" then false
  else if base = "Required" then true
  else total && !field.hasDefault && !isOptional field.hint

/-- Kinds without repetition, in order of their first occurrence. -/
def distinctKinds : List Kind → List Kind :=
  List.foldl (fun kinds kind => if kinds.contains kind then kinds else kinds ++ [kind]) []

def literalSchema (args : List Expr) : Resolved Schema := do
  let values ← args.mapM fun arg =>
    match arg.literal? with
    | some value => pure value.toValue
    | none => throw (.fault (.unsupportedLiteral arg))
  return .enumeration (distinctKinds (values.map Kind.ofValue)) values

def enumSchema (baseNames : List String) (body : List Stmt) : Schema :=
  let values := enumValues body
  if baseNames.any numberEnumBases.contains then .enumeration [.number] values
  else
    match distinctKinds (values.map Kind.ofValue) with
    | [kind] => .enumeration [kind] values
    | _ => .enumeration [.string] values

/-- The kinds of union members that are all plain; `none` if one of them is not.
The members are looked at in order, and a choice of kinds among them is an error. -/
def plainKinds? : List Schema → Resolved (Option (List Kind))
  | [] => pure (some [])
  | .primitive kind none :: members => do
      return (← plainKinds? members).map (kind :: ·)
  | .oneOfKinds _ :: _ => throw .nestedKinds
  | _ :: _ => pure none

def unionSchema : List Schema → Resolved Schema
  | [] => pure (.primitive .null none)
  | [single] => pure single
  | members => do
      match ← plainKinds? members with
      | none => return .anyOf members
      | some kinds =>
          match distinctKinds kinds with
          | [kind] => return .primitive kind none
          | several => return .oneOfKinds several

/-! ### The rules -/

/-- The rules for what lies one step deeper. -/
structure Resolver where
  type : (stack : List String) → Expr → Resolved Schema
  classType : (stack : List String) → ClassDef → Resolved Schema

/-- The rules after the depth has run out. -/
def Resolver.exhausted : Resolver where
  type := fun _ _ => throw .tooDeep
  classType := fun _ _ => throw .tooDeep

section Rules

variable (table : TypeTable) (inner : Resolver)

def resolveName (stack : List String) (name : String) : Resolved Schema :=
  if let some schema := builtinSchema? name then pure schema
  else if stack.contains name then throw (.fault (.recursive name))
  else if let some definition := table.classes.get? name then
    inner.classType (stack ++ [name]) definition
  else if let some target := table.aliases.get? name then inner.type (stack ++ [name]) target
  else throw (.fault (.unknown name))

/-- The schema of a union, whose members may include the type of nothing. -/
def resolveUnion (stack : List String) (members : List Expr) : Resolved Schema := do
  unionSchema (← (members.filter (!isNone ·)).mapM (inner.type stack))

def firstArgument (args : List Expr) : Resolved Expr :=
  match args.head? with
  | some arg => pure arg
  | none => throw .missingArgument

def lastArgument (args : List Expr) : Resolved Expr :=
  match args.getLast? with
  | some arg => pure arg
  | none => throw .missingArgument

/-- The schema of a tuple type; two dots and a third after the first argument make
it a list. -/
def resolveTuple (stack : List String) : List Expr → Resolved Schema
  | [item, .literal .ellipsis] => do return .list (← inner.type stack item)
  | args => do return .tuple (← args.mapM (inner.type stack))

/-- The schema of a type with arguments.  A generic type of the program stands for
its class. -/
def resolveSubscript (stack : List String) (base : String) (args : List Expr) :
    Resolved Schema := do
  if base = "Optional" then inner.type stack (← firstArgument args)
  else if base = "Union" then resolveUnion inner stack args
  else if wrapperTypes.contains base then inner.type stack (← firstArgument args)
  else if base = "Literal" then literalSchema args
  else if listTypes.contains base then return .list (← inner.type stack (← firstArgument args))
  else if tupleTypes.contains base then resolveTuple inner stack args
  else if mappingTypes.contains base then
    return mappingSchema (.typed (← inner.type stack (← lastArgument args)))
  else resolveName table inner stack base

def resolveType (stack : List String) : Expr → Resolved Schema
  | .literal .none => pure (.primitive .null none)
  | .literal (.str text _) =>
      match readExpression? text with
      | some expr => inner.type stack expr
      | none => throw (.ofText text (.badReference text))
  | .literal value => throw (.fault (.notAType value))
  | .name id => resolveName table inner stack id
  | .attribute _ member => resolveName table inner stack member
  | .binary left .bitOr right =>
      resolveUnion inner stack (unionMembers (.binary left .bitOr right))
  | .subscript value index =>
      resolveSubscript table inner stack value.simpleName index.subscriptArgs
  | expr => throw (.fault (.unsupportedForm expr))

/-- What a class has collected of its properties. -/
structure Members where
  properties : Table Property
  required : List String
  additional : Additional

def Members.empty : Members := ⟨[], [], .forbidden⟩

def addNames (names more : List String) : List String :=
  more.foldl (fun names name => if names.contains name then names else names ++ [name]) names

/-- Takes over the members of a base class.  Only an object has members. -/
def Members.inherit (members : Members) : Schema → Members
  | .object properties required additional _ =>
      { properties := members.properties.merge properties
        required := addNames members.required required
        additional :=
          match additional with
          | .forbidden => members.additional
          | other => other }
  | _ => members

/-- Takes over what a base says: a mapping type gives the shape of further
entries, a class of the program its members.  A class that is being resolved
already is left out. -/
def addBase (stack : List String) (members : Members) (base : Expr) : Resolved Members := do
  let name := base.genericName
  match base with
  | .subscript _ index =>
      if mappingTypes.contains name then
        let value ← inner.type stack (← lastArgument index.subscriptArgs)
        return { members with additional := .typed value }
      else inheritFrom name
  | _ => inheritFrom name
where
  /-- Takes over the members of the class of a name. -/
  inheritFrom (name : String) : Resolved Members := do
    match table.classes.get? name with
    | some definition =>
        if stack.contains name then return members
        else return members.inherit (← inner.classType (stack ++ [name]) definition)
    | none => return members

def addField (stack : List String) (total : Bool) (members : Members) (field : Field) :
    Resolved Members := do
  let schema ← inner.type stack field.hint
  let note := if field.note = "" then none else some field.note
  return { members with
    properties := members.properties.put field.name (.mk schema note)
    required :=
      if isRequired total field then addNames members.required [field.name]
      else members.required }

/-- What the head of a class says about further entries, beyond its bases. -/
def additionalOf (stack : List String) (definition : ClassDef) (inherited : Additional) :
    Resolved Additional := do
  let additional ←
    match keywordValue? definition.keywords "extra_items" with
    | some type => pure (.typed (← inner.type stack type))
    | none => pure inherited
  return if allowsExtra definition then .allowed else additional

/-- Whether the fields of a class must be present unless they say otherwise. -/
def isTotal (baseNames : List String) (definition : ClassDef) : Bool :=
  !baseNames.contains "TypedDict" ||
    ((keywordValue? definition.keywords "total").bind Expr.literal?) ≠ some (.bool false)

/-- The schema of a class: an enumeration, a tuple of its fields, or an object. -/
def resolveClass (stack : List String) (definition : ClassDef) : Resolved Schema := do
  let baseNames := definition.bases.map Expr.genericName
  if baseNames.any enumBases.contains then return enumSchema baseNames definition.body
  else
    let fields := fieldsOf definition.body
    if baseNames.contains "NamedTuple" then
      return .tuple (← fields.mapM fun field => inner.type stack field.hint)
    else
      let inherited ← definition.bases.foldlM (addBase table inner stack) .empty
      let additional ← additionalOf inner stack definition inherited.additional
      let members ←
        fields.foldlM (addField inner stack (isTotal baseNames definition))
          { inherited with additional }
      return .object members.properties members.required members.additional
        (docstring? definition.body)

end Rules

/-- The rules tied together up to a depth. -/
def Resolver.upTo (table : TypeTable) : (depth : Nat) → Resolver
  | 0 => .exhausted
  | depth + 1 =>
      { type := fun stack expr => resolveType table (upTo table depth) stack expr
        classType := fun stack definition =>
          resolveClass table (upTo table depth) stack definition }

/-! ### Depth -/

mutual

/-- How many steps resolving an expression can take before it enters a name. -/
def typeDepth : Expr → Nat
  | .literal (.str text _) => text.length + 2
  | .binary left _ right => max (typeDepth left) (typeDepth right) + 1
  | .subscript _ index => typeDepth index + 1
  | .tuple elements => typesDepth elements
  | _ => 1

def typesDepth : List Expr → Nat
  | [] => 1
  | expr :: exprs => max (typeDepth expr) (typesDepth exprs)

end

/-- How many steps resolving a class can take before it enters another name. -/
def classDepth (definition : ClassDef) : Nat :=
  typesDepth definition.bases +
    typesDepth (definition.keywords.map Keyword.value) +
    typesDepth ((fieldsOf definition.body).map Field.hint) + 1

/-- A depth that suffices for an expression: each name is entered at most once. -/
def TypeTable.depthFor (table : TypeTable) (expr : Expr) : Nat :=
  let classes := table.classes.foldr (fun entry depth => classDepth entry.2 + depth) 0
  let aliases := table.aliases.foldr (fun entry depth => typeDepth entry.2 + 1 + depth) 0
  typeDepth expr + classes + aliases + 2

def TypeTable.resolve (table : TypeTable) (expr : Expr) : Resolved Schema :=
  (Resolver.upTo table (table.depthFor expr)).type [] expr

def TypeTable.schemaOf (table : TypeTable) (text : String) : Resolved Schema :=
  match readExpression? (trimString text) with
  | some expr => table.resolve expr
  | none => throw (.ofText (trimString text) (.notAnExpression text))

end RouteScribe.Schema
