import Mathlib.Logic.Relation
import RouteScribe.Proofs.Example.Synthesis
import RouteScribe.Proofs.Schema.Shape

/-!
# Examples fit their schemas

A value conforms to a schema if its type is the one that the schema names and its parts
conform to the schemas of the parts.  What an enumeration lists and what a format asks for
is left aside: a default of the config takes no notice of either.

The argument goes along the shapes of a schema.  Descriptions and the name of the dialect
are entries that an example does not look at, so each step is about all tables that say
the same apart from them.
-/

namespace RouteScribe.Example

open RouteScribe.Json RouteScribe.Config RouteScribe.Schema RouteScribe.Source RouteScribe.Text

/-! ### Conformance -/

def typeWord? : Value → Option String
  | .null => some "null"
  | .bool _ => some "boolean"
  | .int _ | .float _ => some "number"
  | .str _ => some "string"
  | .arr _ => some "array"
  | .obj _ => some "object"
  | .foreign _ => none

/-- The type of a value is the one that a schema names, or one of those that it lists. -/
def Admits (schema value : Value) : Prop :=
  ∃ word, typeWord? value = some word ∧
    (schema.get? "type" = some (.str word) ∨
      ∃ words, schema.get? "type" = some (.arr words) ∧ Value.str word ∈ words)

/-- A schema names a property among those that must be there. -/
def Requires (schema : Value) (name : String) : Prop :=
  ∃ names, schema.get? "required" = some (.arr names) ∧ Value.str name ∈ names

/-- The names of further entries: one key if there is a schema for such entries. -/
def furtherNames (key : String) : Option Value → List String
  | some (.obj _) => [key]
  | _ => []

/-- A value is as its schema says, at every depth.  The key is the one that stands for the
further entries of an object. -/
inductive Conforms (key : String) : (schema value : Value) → Prop where
  | plain {schema value : Value} (htype : Admits schema value)
      (harray : value.asArray? = none) (hobject : value.asObject? = none) :
      Conforms key schema value
  | list {schema item value : Value} (htype : Admits schema (.arr [value]))
      (hitem : schema.get? "items" = some item) (hvalue : Conforms key item value) :
      Conforms key schema (.arr [value])
  | tuple {schema : Value} {items values : List Value} (htype : Admits schema (.arr values))
      (hitems : schema.get? "items" = some (.arr items))
      (hmin : schema.get? "minItems" = some (.int values.length))
      (hmax : schema.get? "maxItems" = some (.int values.length))
      (hvalues : List.Forall₂ (Conforms key) items values) :
      Conforms key schema (.arr values)
  | object {schema : Value} {properties members : Table Value}
      (htype : Admits schema (.obj members))
      (hproperties : schema.get? "properties" = some (.obj properties))
      (hnames : members.names =
        properties.names ++ furtherNames key (schema.get? "additionalProperties"))
      (hrequired : ∀ name, Requires schema name → name ∈ members.names)
      (hdeclared : ∀ name property value, properties.get? name = some property →
        members.get? name = some value → Conforms key property value)
      (hfurther : ∀ additional value,
        schema.get? "additionalProperties" = some (.obj additional) →
          members.get? key = some value → Conforms key (.obj additional) value) :
      Conforms key schema (.obj members)

/-! ### Schemas inside schemas -/

/-- A schema stands in another one. -/
inductive PartOf (part whole : Value) : Prop where
  | item (hitem : whole.get? "items" = some part)
  | position {items : List Value} (hitems : whole.get? "items" = some (.arr items))
      (hpart : part ∈ items)
  | property {properties : Table Value} {name : String}
      (hproperties : whole.get? "properties" = some (.obj properties))
      (hpart : (name, part) ∈ properties)
  | additional (hadditional : whole.get? "additionalProperties" = some part)
  | choice {members : List Value} (hmembers : whole.get? "anyOf" = some (.arr members))
      (hpart : part ∈ members)

/-- A schema has a schema for further entries and declares a property. -/
def OpenWith (schema : Value) (name : String) : Prop :=
  ∃ properties additional, schema.get? "properties" = some (.obj properties) ∧
    schema.get? "additionalProperties" = some (.obj additional) ∧ name ∈ Table.names properties

/-- No schema inside another one, itself included, declares the key for further entries
where it has a schema for such entries. -/
def LeavesFree (key : String) (schema : Value) : Prop :=
  ∀ part, Relation.ReflTransGen PartOf part schema → ¬ OpenWith part key

theorem LeavesFree.part {key : String} {schema part : Value} (hfree : LeavesFree key schema)
    (hpart : PartOf part schema) : LeavesFree key part :=
  fun inner hinner => hfree inner (hinner.tail hpart)

theorem LeavesFree.of_parts {key : String} {schema : Value} (hhere : ¬ OpenWith schema key)
    (hparts : ∀ part, PartOf part schema → LeavesFree key part) : LeavesFree key schema := by
  intro part hpart
  cases hpart with
  | refl => exact hhere
  | tail hinner hlast => exact hparts _ hlast part hinner

/-- A schema that has at most items leaves a key free if they do. -/
theorem leavesFree_of_items {key : String} {schema : Value}
    (hproperties : schema.get? "properties" = none)
    (hadditional : schema.get? "additionalProperties" = none)
    (hchoice : schema.get? "anyOf" = none)
    (hitem : ∀ item, schema.get? "items" = some item → LeavesFree key item)
    (hposition : ∀ items, schema.get? "items" = some (.arr items) →
      ∀ item ∈ items, LeavesFree key item) : LeavesFree key schema := by
  apply LeavesFree.of_parts
  · rintro ⟨_, _, hfound, -⟩
    simp [hproperties] at hfound
  · intro part hpart
    cases hpart with
    | item hfound => exact hitem part hfound
    | position hfound hmem => exact hposition _ hfound part hmem
    | property hfound => simp [hproperties] at hfound
    | additional hfound => simp [hadditional] at hfound
    | choice hfound => simp [hchoice] at hfound

theorem leavesFree_of_leaf {key : String} {schema : Value} (hitems : schema.get? "items" = none)
    (hproperties : schema.get? "properties" = none)
    (hadditional : schema.get? "additionalProperties" = none)
    (hchoice : schema.get? "anyOf" = none) : LeavesFree key schema :=
  leavesFree_of_items hproperties hadditional hchoice (by simp [hitems]) (by simp [hitems])

/-! ### Types of examples -/

theorem get?_obj (entries : Table Value) (key : String) :
    (Value.obj entries).get? key = entries.get? key := rfl

/-- A value of the kind that the schema names is admitted by it. -/
theorem admits_of_kindOf {entries : Table Value} {value : Value} {word : String}
    (hword : typeWord? value = some word) (hkind : kindOf entries = .str word) :
    Admits (.obj entries) value := by
  refine ⟨word, hword, ?_⟩
  unfold kindOf at hkind
  rw [get?_obj]
  split at hkind
  · rename_i first rest htype
    exact .inr ⟨first :: rest, htype, hkind ▸ List.mem_cons_self⟩
  · rename_i htype
    exact .inl (hkind ▸ htype)
  · cases hkind

/-- The default of a kind is a plain value of that kind. -/
theorem typeWord?_of_primitive? {defaults : Defaults} {kind : String} {value : Value}
    (hvalue : primitive? defaults kind = some value) :
    typeWord? value = some kind ∧ value.asArray? = none ∧ value.asObject? = none := by
  unfold primitive? at hvalue
  split at hvalue
  · cases hvalue
    exact ⟨rfl, rfl, rfl⟩
  · cases hvalue
    cases defaults.number with
    | int => exact ⟨rfl, rfl, rfl⟩
    | float => exact ⟨rfl, rfl, rfl⟩
  · cases hvalue
    exact ⟨rfl, rfl, rfl⟩
  · cases hvalue

variable {defaults : Defaults}

theorem conforms_of_primitive? {entries : Table Value} {kind : String} {value : Value}
    (hkind : kindOf entries = .str kind) (hvalue : primitive? defaults kind = some value) :
    Conforms defaults.jsonKey (.obj entries) value := by
  obtain ⟨hword, harray, hobject⟩ := typeWord?_of_primitive? hvalue
  exact .plain (admits_of_kindOf hword hkind) harray hobject

/-! ### Entries that examples pass over -/

/-- A table says the same as another one apart from remarks. -/
def SaysMore (entries more : Table Value) : Prop :=
  ∀ key, key ≠ "description" → key ≠ "$schema" → more.get? key = entries.get? key

/-- The examples of a schema conform to it, whatever remarks it has. -/
def Fits (defaults : Defaults) (entries : Table Value) : Prop :=
  ∀ ⦃more⦄, SaysMore entries more → LeavesFree defaults.jsonKey (.obj more) →
    ∀ ⦃name value⦄, ofSchema defaults [] name (.obj more) = .ok value →
      Conforms defaults.jsonKey (.obj more) value

theorem SaysMore.kindOf_eq {entries more : Table Value} (hmore : SaysMore entries more) :
    kindOf more = kindOf entries := by
  unfold kindOf
  rw [hmore "type" (by decide) (by decide)]

theorem named?_nil (name : Option String) : named? [] name = none := by
  cases name <;> rfl

theorem Fits.of_part {entries : Table Value} {whole value : Value} {name : Option String}
    (hfits : Fits defaults entries) (hfree : LeavesFree defaults.jsonKey whole)
    (hpart : PartOf (.obj entries) whole)
    (hvalue : ofSchema defaults [] name (.obj entries) = .ok value) :
    Conforms defaults.jsonKey (.obj entries) value :=
  hfits (fun _ _ _ => rfl) (hfree.part hpart) hvalue

/-- Where the kind of a schema is neither that of an object nor that of an array, an
example is a plain value. -/
theorem fits_of_plain {entries : Table Value} (hobject : kindOf entries ≠ .str "object")
    (harray : kindOf entries ≠ .str "array") : Fits defaults entries := by
  intro more hmore _ name value hvalue
  have hmakes := ofSchema_eq_ok_iff.mp hvalue
  rw [← hmore.kindOf_eq] at hobject harray
  cases hmakes with
  | object hkind => exact absurd hkind hobject
  | array hkind => exact absurd hkind harray
  | namedArray hkind => exact absurd hkind harray
  | primitive hkind hprimitive =>
      rw [named?_nil]
      exact conforms_of_primitive? hkind hprimitive

/-! ### One shape at a time -/

/-- A list of one element fits the schema of a list. -/
theorem fits_list {item : Table Value} (hitem : Fits defaults item) :
    Fits defaults [("type", .str "array"), ("items", .obj item)] := by
  intro more hmore hfree name value hvalue
  have hkind : kindOf more = .str "array" := hmore.kindOf_eq
  have hschema : more.get? "items" = some (.obj item) := hmore "items" (by decide) (by decide)
  obtain ⟨items, rfl, hitems⟩ := makes_array hkind (named?_nil name) hvalue
  simp only [hschema, fromItems] at hitems
  split at hitems
  · cases hitems
  · obtain ⟨found, hfound, rfl⟩ := map_eq_ok_iff.mp hitems
    apply Conforms.list (admits_of_kindOf rfl hkind) hschema
    exact hitem.of_part hfree (.item hschema) hfound

/-- A value for each position fits the schema of a tuple. -/
theorem fits_tuple {items : List (Table Value)} (hitems : ∀ item ∈ items, Fits defaults item) :
    Fits defaults [("type", .str "array"), ("items", .arr (items.map .obj)),
      ("minItems", .int items.length), ("maxItems", .int items.length)] := by
  intro more hmore hfree name value hvalue
  have hkind : kindOf more = .str "array" := hmore.kindOf_eq
  have hschemas : more.get? "items" = some (.arr (items.map .obj)) :=
    hmore "items" (by decide) (by decide)
  have hmin : more.get? "minItems" = some (.int items.length) :=
    hmore "minItems" (by decide) (by decide)
  have hmax : more.get? "maxItems" = some (.int items.length) :=
    hmore "maxItems" (by decide) (by decide)
  obtain ⟨values, rfl, hvalues⟩ := makes_array hkind (named?_nil name) hvalue
  rw [hschemas, fromItems] at hvalues
  have hmade := forall₂_of_ofPositions hvalues
  have hlength : values.length = items.length := by
    rw [← hmade.length_eq, List.length_map]
  rw [← hlength] at hmin hmax
  apply Conforms.tuple (admits_of_kindOf rfl hkind) hschemas hmin hmax
  have hmembers := (List.forall₂_and_left _ _).mpr ⟨fun _ hmem => hmem, hmade⟩
  apply hmembers.imp
  intro schema found ⟨hmem, hfound⟩
  obtain ⟨item, hitem, rfl⟩ := List.mem_map.mp hmem
  exact (hitems item hitem).of_part hfree (.position hschemas hmem) hfound

/-- A further entry stands at the end if the properties leave its key free. -/
theorem withExtra_eq {members : Table Value} {extra : Option Value}
    (hkey : extra.isSome → defaults.jsonKey ∉ members.names) :
    withExtra defaults members extra =
      members ++ extra.toList.map fun value => (defaults.jsonKey, value) := by
  cases extra with
  | none => exact (List.append_nil members).symm
  | some value =>
      have hput := Table.put_append (hkey rfl) value []
      rwa [List.append_nil] at hput

/-- There is a further entry exactly where the schema has one to offer. -/
theorem further_of_fromAdditional {found extra : Option Value}
    (hextra : fromAdditional defaults [] found = .ok extra) :
    (extra.toList.map fun _ => defaults.jsonKey) = furtherNames defaults.jsonKey found := by
  unfold fromAdditional at hextra
  split at hextra
  · obtain ⟨value, -, rfl⟩ := map_eq_ok_iff.mp hextra
    rfl
  · rename_i hother
    cases hextra
    unfold furtherNames
    split
    · exact absurd rfl (hother _)
    · rfl

def objectEntries (properties : List (String × Table Value)) (required : List String)
    (additional : Value) : Table Value :=
  [("type", .str "object"),
    ("properties", .obj (properties.map fun property => (property.1, .obj property.2)))] ++
    (if required = [] then [] else [("required", .arr (required.map .str))]) ++
    [("additionalProperties", additional)]

section Object

variable {properties : List (String × Table Value)} {required : List String} {additional : Value}

theorem get?_additionalProperties :
    (objectEntries properties required additional).get? "additionalProperties" =
      some additional := by
  unfold objectEntries
  split
  · rfl
  · rfl

/-- What the schema of an object requires is in its list of required names. -/
theorem mem_of_requires {more : Table Value} {name : String}
    (hmore : SaysMore (objectEntries properties required additional) more)
    (hname : Requires (.obj more) name) : name ∈ required := by
  obtain ⟨names, hnames, hmem⟩ := hname
  rw [get?_obj, hmore "required" (by decide) (by decide)] at hnames
  unfold objectEntries at hnames
  split at hnames
  · cases hnames
  · cases hnames
    obtain ⟨found, hfound, hstr⟩ := List.mem_map.mp hmem
    cases hstr
    exact hfound

/-- Fitting properties and a fitting further entry make up a fitting object. -/
theorem fits_object (hproperties : ∀ property ∈ properties, Fits defaults property.2)
    (hdeclared : ∀ name ∈ required, name ∈ properties.map Prod.fst)
    (hadditional : ∀ entries, additional = .obj entries → Fits defaults entries) :
    Fits defaults (objectEntries properties required additional) := by
  intro more hmore hfree name value hvalue
  let declared : Table Value := properties.map fun property => (property.1, .obj property.2)
  have hkind : kindOf more = .str "object" := hmore.kindOf_eq
  have hschemas : more.get? "properties" = some (.obj declared) :=
    hmore "properties" (by decide) (by decide)
  have hshape : more.get? "additionalProperties" = some additional :=
    (hmore _ (by decide) (by decide)).trans get?_additionalProperties
  obtain ⟨members, extra, rfl, hmembers, hextra⟩ := makes_object hkind hvalue
  rw [hschemas, fromProperties] at hmembers
  have hnames : members.names = declared.names := names_of_ofNamed hmembers
  have hfurther := further_of_fromAdditional hextra
  -- An example of a further entry comes from a schema for such, and then the key is free.
  have hkey : extra.isSome → defaults.jsonKey ∉ members.names := by
    intro hsome hmem
    obtain ⟨found, rfl⟩ := Option.isSome_iff_exists.mp hsome
    obtain ⟨entries, hentries, -⟩ := fromAdditional_eq_some.mp hextra
    exact hfree _ .refl ⟨declared, entries, hschemas, hentries, hnames ▸ hmem⟩
  rw [withExtra_eq hkey]
  apply Conforms.object (admits_of_kindOf rfl hkind) hschemas
  · rw [get?_obj, ← hfurther, ← hnames]
    simp [Table.names]
  · intro found hfound
    have hrequired := hdeclared found (mem_of_requires hmore hfound)
    have hmem : found ∈ members.names := by
      rw [hnames]
      simpa [declared, Table.names] using hrequired
    rw [Table.names, List.map_append]
    exact List.mem_append_left _ hmem
  · intro found schema result hschema hresult
    obtain ⟨made, hget, hexample⟩ := get?_of_ofNamed hmembers hschema
    have hmem := Table.mem_of_get? hschema
    obtain ⟨property, hproperty, heq⟩ := List.mem_map.mp hmem
    cases heq
    rw [Table.get?_append, hget, Option.some_or] at hresult
    cases hresult
    exact (hproperties property hproperty).of_part hfree (.property hschemas hmem) hexample
  · intro entries result hentries hresult
    rw [get?_obj, hshape] at hentries
    cases hentries
    rw [hshape] at hextra
    obtain ⟨made, hexample, rfl⟩ := map_eq_ok_iff.mp hextra
    rw [Table.get?_append, Table.get?_eq_none (hkey rfl), Option.none_or, Option.toList_some,
      List.map_singleton, Table.get?_cons_self] at hresult
    cases hresult
    exact (hadditional entries rfl).of_part hfree (.additional hshape) hexample

end Object

/-! ### All shapes -/

theorem kindOf_of_kindsValue {entries : Table Value} {kinds : List Kind}
    (htype : entries.get? "type" = some (kindsValue kinds)) :
    kindOf entries = .arr [] ∨ ∃ kind : Kind, kindOf entries = .str kind.word := by
  unfold kindOf
  rw [htype]
  match kinds with
  | [] => exact .inl rfl
  | [kind] => exact .inr ⟨kind, rfl⟩
  | kind :: _ :: _ => exact .inr ⟨kind, rfl⟩

theorem fits_of_kinds (kinds : List Kind) {entries : Table Value}
    (htype : entries.get? "type" = some (kindsValue kinds)) : Fits defaults entries := by
  apply fits_of_plain
  · rcases kindOf_of_kindsValue htype with hkind | ⟨kind, hkind⟩
    · simp [hkind]
    · cases kind <;> simp [hkind, Kind.word]
  · rcases kindOf_of_kindsValue htype with hkind | ⟨kind, hkind⟩
    · simp [hkind]
    · cases kind <;> simp [hkind, Kind.word]

theorem fits_of_untyped {entries : Table Value} (htype : entries.get? "type" = none) :
    Fits defaults entries := by
  have hkind : kindOf entries = .null := by
    unfold kindOf
    rw [htype]
  apply fits_of_plain
  · simp [hkind]
  · simp [hkind]

/-- Every schema that the resolver can give is fitted by its example. -/
theorem fits_of_isSchema {entries : Table Value} (hentries : IsSchema entries) :
    Fits defaults entries := by
  induction hentries with
  | any => exact fits_of_untyped rfl
  | primitive kind => exact fits_of_kinds [kind] rfl
  | formatted format => exact fits_of_kinds [.string] rfl
  | list _ hitem => exact fits_list hitem
  | tuple _ hitems => exact fits_tuple hitems
  | object _ _ _ hdeclared _ _ hproperties hadditional =>
      exact fits_object hproperties hdeclared hadditional
  | @enumeration kinds _ values => exact fits_of_kinds kinds rfl
  | @typeList kinds hseveral _ =>
      apply fits_of_kinds kinds
      rw [kindsValue_of_several hseveral]
      rfl
  | anyOf => exact fits_of_untyped rfl
  | described _ _ text hfits =>
      -- What says more than the described entries says more than those without it.
      intro more hmore
      apply hfits
      intro key hdescription hdialect
      rw [hmore key hdescription hdialect, Table.get?_append,
        Table.get?_cons_of_ne hdescription]
      simp [Table.get?]

theorem isSchema_of_schemaOf {table : TypeTable} {text : String} {schema : Schema}
    (hschema : table.schemaOf text = .ok schema) : IsSchema schema.entries := by
  apply WellFormed.isSchema
  unfold TypeTable.schemaOf at hschema
  split at hschema
  · rename_i expr _
    exact Resolver.sound_upTo table _ (.type [] expr) hschema
  · cases hschema

/-- Without examples by name, an example of the schema of a type conforms to it at every
depth, provided that no open object declares the key for its further entries. -/
theorem example_conforms {table : TypeTable} {text : String} {schema : Schema}
    (hschema : table.schemaOf text = .ok schema)
    (hfree : LeavesFree defaults.jsonKey schema.document) {name : Option String} {value : Value}
    (hvalue : ofSchema defaults [] name schema.document = .ok value) :
    Conforms defaults.jsonKey schema.document value := by
  have hfits : Fits defaults schema.entries := fits_of_isSchema (isSchema_of_schemaOf hschema)
  apply hfits _ hfree hvalue
  intro key _ hdialect
  exact Table.get?_cons_of_ne hdialect _ _

/-! ### A booking -/

/-- A class with a mapping type among its bases, a union, a tuple and a list. -/
def bookingClass : ClassDef :=
  .mk "Booking" [.subscript (.name "Dict") (.tuple [.name "str", .name "float"])] [] []
    [.annotated ⟨2, 4⟩ (.name "id") (.binary (.name "int") .bitOr (.name "str")) none,
      .annotated ⟨3, 4⟩ (.name "stay") (.subscript (.name "tuple")
        (.tuple [.name "date", .name "bool"])) none,
      .annotated ⟨4, 4⟩ (.name "guests") (.subscript (.name "list") (.name "str"))
        (some (.literal .none))]

def bookingTable : TypeTable where
  classes := [("Booking", bookingClass)]
  aliases := []

def bookingSchema : Schema :=
  .object
    [("id", .mk (.oneOfKinds [.number, .string]) none),
      ("stay", .mk (.tuple [.primitive .string (some "date"), .primitive .boolean none]) none),
      ("guests", .mk (.list (.primitive .string none)) none)]
    ["id", "stay"] (.typed (.primitive .number none)) none

def bookingValue : Value :=
  .obj [("id", .int 0), ("stay", .arr [.str "abcd", .bool true]),
    ("guests", .arr [.str "abcd"]), ("key", .int 0)]

theorem schemaOf_booking : bookingTable.schemaOf "Booking" = .ok bookingSchema := by
  have hread : readExpression? (trimString "Booking") = some (.name "Booking") := by
    cbv
  have hfields : fieldsOf bookingClass.body =
      [⟨"id", .binary (.name "int") .bitOr (.name "str"), false, ""⟩,
        ⟨"stay", .subscript (.name "tuple") (.tuple [.name "date", .name "bool"]), false, ""⟩,
        ⟨"guests", .subscript (.name "list") (.name "str"), true, ""⟩] := by
    cbv
  apply schemaOf_alone hread (by decide)
  intro depth
  change resolveClass bookingTable (Resolver.upTo bookingTable (depth + 2)) ["Booking"]
    bookingClass = _
  unfold resolveClass
  rw [hfields]
  rfl

theorem leavesFree_booking : LeavesFree "key" bookingSchema.document := by
  have hstay : LeavesFree "key" (.obj
      (Schema.tuple [.primitive .string (some "date"), .primitive .boolean none]).entries) := by
    apply leavesFree_of_items rfl rfl rfl
    · intro item hitem
      cases hitem
      exact leavesFree_of_leaf rfl rfl rfl rfl
    · intro items hitems
      cases hitems
      simp only [schemaValues, List.forall_mem_cons]
      exact ⟨leavesFree_of_leaf rfl rfl rfl rfl, leavesFree_of_leaf rfl rfl rfl rfl, by simp⟩
  have hguests : LeavesFree "key" (.obj (Schema.list (.primitive .string none)).entries) := by
    apply leavesFree_of_items rfl rfl rfl
    · intro item hitem
      cases hitem
      exact leavesFree_of_leaf rfl rfl rfl rfl
    · intro items hitems
      cases hitems
  apply LeavesFree.of_parts
  · rintro ⟨properties, additional, hproperties, -, hname⟩
    cases hproperties
    simp [Table.names, propertyEntries] at hname
  · intro part hpart
    cases hpart with
    | item hitem => cases hitem
    | position hitems => cases hitems
    | property hproperties hmem =>
        cases hproperties
        simp only [propertyEntries, List.mem_cons, Prod.mk.injEq, List.not_mem_nil,
          or_false] at hmem
        rcases hmem with ⟨-, rfl⟩ | ⟨-, rfl⟩ | ⟨-, rfl⟩
        · exact leavesFree_of_leaf rfl rfl rfl rfl
        · exact hstay
        · exact hguests
    | additional hadditional =>
        cases hadditional
        exact leavesFree_of_leaf rfl rfl rfl rfl
    | choice hmembers => cases hmembers

theorem example_of_booking :
    ofSchema {} [] none bookingSchema.document = .ok bookingValue := rfl

theorem example_conforms_booking :
    bookingTable.schemaOf "Booking" = .ok bookingSchema ∧
      LeavesFree (Defaults.jsonKey {}) bookingSchema.document ∧
      ofSchema {} [] none bookingSchema.document = .ok bookingValue ∧
      Conforms (Defaults.jsonKey {}) bookingSchema.document bookingValue :=
  ⟨schemaOf_booking, leavesFree_booking, example_of_booking,
    example_conforms schemaOf_booking leavesFree_booking example_of_booking⟩

end RouteScribe.Example
