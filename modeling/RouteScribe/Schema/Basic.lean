import RouteScribe.Json.Value

/-!
# Structural schemas

A schema describes the shape of a value: nothing at all, a plain kind, a list, a
tuple, an object, an enumeration, or a choice.  Its form as a value has its
entries in a fixed order, with a description as the last one.
-/

namespace RouteScribe

open RouteScribe.Json

/-- The kinds of plain values. -/
inductive Schema.Kind where
  | string | number | boolean | null
  deriving DecidableEq, Repr

def Schema.Kind.word : Schema.Kind → String
  | .string => "string"
  | .number => "number"
  | .boolean => "boolean"
  | .null => "null"

/-- The kind of a value in an enumeration.  A value without a form of its own
counts as a text. -/
def Schema.Kind.ofValue : Value → Schema.Kind
  | .bool _ => .boolean
  | .int _ | .float _ => .number
  | .null => .null
  | _ => .string

mutual

/-- The shape of a value. -/
inductive Schema where
  /-- Any value. -/
  | any
  | primitive (kind : Schema.Kind) (format : Option String)
  /-- A list with items of one shape. -/
  | list (item : Schema)
  /-- A list with as many items as there are shapes. -/
  | tuple (items : List Schema)
  | object (properties : List (String × Schema.Property)) (required : List String)
      (additional : Schema.Additional) (description : Option String)
  /-- One of some values, whose kinds are listed. -/
  | enumeration (kinds : List Schema.Kind) (values : List Value)
  /-- A plain value of one of several kinds. -/
  | oneOfKinds (kinds : List Schema.Kind)
  | anyOf (members : List Schema)

/-- What an object may hold beside its properties. -/
inductive Schema.Additional where
  | forbidden
  | allowed
  | typed (schema : Schema)

/-- The shape of a property, with a note that takes the place of its
description. -/
inductive Schema.Property where
  | mk (schema : Schema) (note : Option String)

end

instance : Inhabited Schema := ⟨.any⟩

namespace Schema

/-- The `type` entry for some kinds: one kind stands alone. -/
def kindsValue : List Kind → Value
  | [kind] => .str kind.word
  | kinds => .strings (kinds.map Kind.word)

def withDescription (entries : List (String × Value)) : Option String → List (String × Value)
  | none => entries
  | some text => Table.put "description" (.str text) entries

def requiredEntry (required : List String) : List (String × Value) :=
  if required.isEmpty then [] else [("required", .strings required)]

mutual

def entries : Schema → List (String × Value)
  | .any => []
  | .primitive kind none => [("type", .str kind.word)]
  | .primitive kind (some format) => [("type", .str kind.word), ("format", .str format)]
  | .list item => [("type", .str "array"), ("items", .obj item.entries)]
  | .tuple items =>
      [("type", .str "array"), ("items", .arr (schemaValues items)),
        ("minItems", .int items.length), ("maxItems", .int items.length)]
  | .object properties required additional description =>
      withDescription
        ([("type", .str "object"), ("properties", .obj (propertyEntries properties))] ++
          requiredEntry required ++ [("additionalProperties", additional.value)])
        description
  | .enumeration kinds values => [("type", kindsValue kinds), ("enum", .arr values)]
  | .oneOfKinds kinds => [("type", kindsValue kinds)]
  | .anyOf members => [("anyOf", .arr (schemaValues members))]

def schemaValues : List Schema → List Value
  | [] => []
  | schema :: schemas => .obj schema.entries :: schemaValues schemas

def propertyEntries : List (String × Property) → List (String × Value)
  | [] => []
  | (name, property) :: properties =>
      (name, .obj property.entries) :: propertyEntries properties

def Property.entries : Property → List (String × Value)
  | .mk schema note => withDescription schema.entries note

def Additional.value : Additional → Value
  | .forbidden => .bool false
  | .allowed => .bool true
  | .typed schema => .obj schema.entries

end

/-- The dialect that a schema names at its top. -/
def dialect : String := "http://json-schema.org/draft-07/schema#"

def document (schema : Schema) : Value :=
  .obj (("$schema", .str dialect) :: schema.entries)

end Schema

end RouteScribe
