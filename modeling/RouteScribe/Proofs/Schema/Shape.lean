import Mathlib.Data.List.Nodup
import RouteScribe.Proofs.Schema.Invariant

/-!
# The shape of a schema

Whatever a type comes to, its schema as a value has one of a few shapes, and so has every
schema inside it.  The required names of an object are some of its properties, each named
once; a tuple says how long it is; a choice leaves at least two possibilities.

What the rules make sure of is an invariant of theirs: well-formed schemas, together with
members whose names do not repeat and whose required names are declared.
-/

namespace RouteScribe.Schema

open RouteScribe.Json RouteScribe.Source RouteScribe.Text

/-! ### The shapes of a schema as a value -/

/-- The entries of a schema.  Those of an object, of a tuple and of a choice hold the
entries of further schemas. -/
inductive IsSchema : List (String × Value) → Prop where
  | any : IsSchema []
  | primitive (kind : Kind) : IsSchema [("type", .str kind.word)]
  | formatted (format : String) : IsSchema [("type", .str "string"), ("format", .str format)]
  | list {item : List (String × Value)} (hitem : IsSchema item) :
      IsSchema [("type", .str "array"), ("items", .obj item)]
  /-- The length of a tuple is the number of its items. -/
  | tuple {items : List (List (String × Value))} (hitems : ∀ item ∈ items, IsSchema item) :
      IsSchema [("type", .str "array"), ("items", .arr (items.map .obj)),
        ("minItems", .int items.length), ("maxItems", .int items.length)]
  /-- The entry for required properties is there if there are any.  Further entries are
  forbidden, allowed or of one shape. -/
  | object {properties : List (String × List (String × Value))} {required : List String}
      {additional : Value} (hnames : (properties.map Prod.fst).Nodup)
      (hproperties : ∀ property ∈ properties, IsSchema property.2)
      (hrequired : required.Nodup)
      (hdeclared : ∀ name ∈ required, name ∈ properties.map Prod.fst)
      (hflag : (∃ isAllowed, additional = .bool isAllowed) ∨ ∃ entries, additional = .obj entries)
      (hadditional : ∀ entries, additional = .obj entries → IsSchema entries) :
      IsSchema
        ([("type", .str "object"),
          ("properties", .obj (properties.map fun property => (property.1, .obj property.2)))] ++
          (if required = [] then [] else [("required", .arr (required.map .str))]) ++
          [("additionalProperties", additional)])
  /-- One kind stands alone, others in a list. -/
  | enumeration {kinds : List Kind} (hkinds : kinds.Nodup) (values : List Value) :
      IsSchema [("type", kindsValue kinds), ("enum", .arr values)]
  | typeList {kinds : List Kind} (hseveral : 2 ≤ kinds.length) (hkinds : kinds.Nodup) :
      IsSchema [("type", .arr (kinds.map fun kind => .str kind.word))]
  | anyOf {members : List (List (String × Value))} (hseveral : 2 ≤ members.length)
      (hmembers : ∀ member ∈ members, IsSchema member) :
      IsSchema [("anyOf", .arr (members.map .obj))]
  /-- A description is the last entry, and there is one at most. -/
  | described {entries : List (String × Value)} (hentries : IsSchema entries)
      (hplain : "description" ∉ Table.names entries) (text : String) :
      IsSchema (entries ++ [("description", .str text)])

/-! ### Well-formed schemas -/

/-- What the rules make sure of in every schema. -/
inductive WellFormed : Schema → Prop where
  | any : WellFormed .any
  | primitive (kind : Kind) : WellFormed (.primitive kind none)
  | formatted (format : String) : WellFormed (.primitive .string (some format))
  | list {item : Schema} (hitem : WellFormed item) : WellFormed (.list item)
  | tuple {items : List Schema} (hitems : ∀ item ∈ items, WellFormed item) :
      WellFormed (.tuple items)
  | object {properties : Table Property} {required : List String} {additional : Additional}
      (hnames : properties.names.Nodup)
      (hproperties : ∀ name schema note, (name, .mk schema note) ∈ properties → WellFormed schema)
      (hrequired : required.Nodup) (hdeclared : ∀ name ∈ required, name ∈ properties.names)
      (hadditional : ∀ schema, additional = .typed schema → WellFormed schema)
      (description : Option String) :
      WellFormed (.object properties required additional description)
  | enumeration {kinds : List Kind} (hkinds : kinds.Nodup) (values : List Value) :
      WellFormed (.enumeration kinds values)
  | oneOfKinds {kinds : List Kind} (hseveral : 2 ≤ kinds.length) (hkinds : kinds.Nodup) :
      WellFormed (.oneOfKinds kinds)
  | anyOf {members : List Schema} (hseveral : 2 ≤ members.length)
      (hmembers : ∀ member ∈ members, WellFormed member) : WellFormed (.anyOf members)

/-- The shape of further entries is well formed, if there is one. -/
def Additional.WellFormed (additional : Additional) : Prop :=
  ∀ schema, additional = .typed schema → Schema.WellFormed schema

theorem Additional.WellFormed.typed {schema : Schema} (hschema : Schema.WellFormed schema) :
    (Additional.typed schema).WellFormed := by
  intro found hfound
  cases hfound
  exact hschema

theorem Additional.wellFormed_allowed : Additional.allowed.WellFormed := by
  intro found hfound
  cases hfound

/-- What the rules make sure of in the members that a class has collected. -/
structure Members.WellFormed (members : Members) : Prop where
  names : members.properties.names.Nodup
  properties : ∀ name schema note, (name, .mk schema note) ∈ members.properties →
    Schema.WellFormed schema
  required : members.required.Nodup
  declared : ∀ name ∈ members.required, name ∈ members.properties.names
  additional : members.additional.WellFormed

/-! ### From well-formed schemas to their entries -/

theorem schemaValues_eq_map (schemas : List Schema) :
    schemaValues schemas = (schemas.map entries).map .obj := by
  induction schemas with
  | nil => rfl
  | cons schema schemas ih => rw [schemaValues, ih, List.map_cons, List.map_cons]

theorem propertyEntries_eq_map (properties : List (String × Property)) :
    propertyEntries properties =
      (properties.map fun property => (property.1, property.2.entries)).map
        fun property => (property.1, .obj property.2) := by
  induction properties with
  | nil => rfl
  | cons property properties ih =>
      rw [propertyEntries, ih, List.map_cons, List.map_cons]

/-- A note in the place of a description leaves a schema. -/
theorem IsSchema.withDescription {entries : List (String × Value)} (hentries : IsSchema entries)
    (note : Option String) : IsSchema (withDescription entries note) := by
  cases note with
  | none => exact hentries
  | some text =>
      by_cases hplain : "description" ∉ Table.names entries
      · have hput := Table.put_append hplain (.str text) []
        rw [List.append_nil] at hput
        rw [Schema.withDescription, hput]
        exact hentries.described hplain text
      · cases hentries with
        | @described inner hinner hwithout old =>
            rw [Schema.withDescription, Table.put_append hwithout]
            exact hinner.described hwithout text
        | object =>
            refine absurd ?_ hplain
            split <;> simp [Table.names]
        | _ => exact absurd (by simp [Table.names]) hplain

theorem requiredEntry_eq (required : List String) :
    requiredEntry required =
      if required = [] then [] else [("required", .arr (required.map .str))] := by
  simp [requiredEntry, Value.strings]

theorem Additional.isFlag_or_typed (additional : Additional) :
    (∃ isAllowed, additional.value = .bool isAllowed) ∨
      ∃ entries, additional.value = .obj entries := by
  cases additional with
  | forbidden => exact .inl ⟨false, rfl⟩
  | allowed => exact .inl ⟨true, rfl⟩
  | typed schema => exact .inr ⟨schema.entries, rfl⟩

theorem kindsValue_of_several {kinds : List Kind} (hseveral : 2 ≤ kinds.length) :
    kindsValue kinds = .arr (kinds.map fun kind => .str kind.word) := by
  rcases kinds with _ | ⟨first, _ | ⟨second, rest⟩⟩
  · simp at hseveral
  · simp at hseveral
  · simp [kindsValue, Value.strings]

/-- The entries of a well-formed schema are a schema of the specification. -/
theorem WellFormed.isSchema {schema : Schema} (hschema : WellFormed schema) :
    IsSchema schema.entries := by
  induction hschema with
  | any => exact .any
  | primitive kind => exact .primitive kind
  | formatted format => exact .formatted format
  | list _ hitem => exact .list hitem
  | @tuple items _ hitems =>
      have htuple := @IsSchema.tuple (items.map entries) (by simpa using hitems)
      rwa [← schemaValues_eq_map, List.length_map] at htuple
  | @object properties required additional hnames _ hrequired hdeclared _ description hproperties
      hadditional =>
      apply IsSchema.withDescription
      rw [propertyEntries_eq_map, requiredEntry_eq]
      have hfst : (properties.map fun property => (property.1, property.2.entries)).map Prod.fst =
          properties.names := by
        simp [Table.names, Function.comp_def]
      apply IsSchema.object
      · rwa [hfst]
      · intro property hproperty
        obtain ⟨⟨name, schema, note⟩, hmem, rfl⟩ := List.mem_map.mp hproperty
        exact (hproperties name schema note hmem).withDescription note
      · exact hrequired
      · rwa [hfst]
      · exact additional.isFlag_or_typed
      · intro found hfound
        cases additional with
        | typed schema =>
            cases hfound
            exact hadditional schema rfl
        | _ => cases hfound
  | enumeration hkinds values => exact .enumeration hkinds values
  | @oneOfKinds kinds hseveral hkinds =>
      rw [entries, kindsValue_of_several hseveral]
      exact .typeList hseveral hkinds
  | @anyOf members hseveral _ hmembers =>
      rw [entries, schemaValues_eq_map]
      exact .anyOf (by simpa using hseveral) (by simpa using hmembers)

/-! ### Lists without repetition -/

section AddNew

variable {α : Type} [BEq α] [LawfulBEq α]

/-- Entering items one after the other, each unless it is there, keeps all of them and
repeats none. -/
theorem foldl_addNew (more : List α) {items : List α} (hitems : items.Nodup) :
    let added := more.foldl
      (fun items item => if items.contains item then items else items ++ [item]) items
    added.Nodup ∧ ∀ x, x ∈ added ↔ x ∈ items ∨ x ∈ more := by
  induction more generalizing items with
  | nil => simpa using hitems
  | cons item more ih =>
      rw [List.foldl_cons]
      by_cases hitem : item ∈ items
      · rw [if_pos (by simpa using hitem)]
        obtain ⟨hnodup, hmem⟩ := ih hitems
        refine ⟨hnodup, fun x => ?_⟩
        rw [hmem, List.mem_cons]
        constructor
        · rintro (hx | hx)
          · exact .inl hx
          · exact .inr (.inr hx)
        · rintro (hx | rfl | hx)
          · exact .inl hx
          · exact .inl hitem
          · exact .inr hx
      · rw [if_neg (by simpa using hitem)]
        have hpushed : (items ++ [item]).Nodup := by
          rw [← List.concat_eq_append]
          exact hitems.concat hitem
        obtain ⟨hnodup, hmem⟩ := ih hpushed
        refine ⟨hnodup, fun x => ?_⟩
        rw [hmem, List.mem_append, List.mem_singleton, List.mem_cons, or_assoc]

end AddNew

theorem nodup_distinctKinds (kinds : List Kind) : (distinctKinds kinds).Nodup :=
  (foldl_addNew kinds List.nodup_nil).1

theorem mem_distinctKinds {kinds : List Kind} {kind : Kind} :
    kind ∈ distinctKinds kinds ↔ kind ∈ kinds := by
  have hmem : kind ∈ distinctKinds kinds ↔ kind ∈ [] ∨ kind ∈ kinds :=
    (foldl_addNew kinds List.nodup_nil).2 kind
  simpa using hmem

theorem nodup_addNames {names : List String} (hnames : names.Nodup) (more : List String) :
    (addNames names more).Nodup :=
  (foldl_addNew more hnames).1

theorem mem_addNames {names more : List String} (hnames : names.Nodup) {name : String} :
    name ∈ addNames names more ↔ name ∈ names ∨ name ∈ more :=
  (foldl_addNew more hnames).2 name

/-! ### The rules for types -/

theorem wellFormed_primitiveTypes {entry : String × Schema} (hentry : entry ∈ primitiveTypes) :
    WellFormed entry.2 := by
  have hall : ∀ entry ∈ primitiveTypes, (∃ kind, entry.2 = .primitive kind none) ∨
      ∃ format, entry.2 = .primitive .string (some format) := by
    simp [primitiveTypes]
  rcases hall entry hentry with ⟨kind, hkind⟩ | ⟨format, hformat⟩
  · rw [hkind]
    exact .primitive kind
  · rw [hformat]
    exact .formatted format

theorem wellFormed_mappingSchema {additional : Additional} (hadditional : additional.WellFormed) :
    WellFormed (mappingSchema additional) :=
  .object (by simp [Table.names]) (by simp) List.nodup_nil (by simp) hadditional none

theorem wellFormed_builtin {name : String} {schema : Schema}
    (hbuiltin : builtinSchema? name = some schema) : WellFormed schema := by
  unfold builtinSchema? at hbuiltin
  split at hbuiltin
  · rename_i hfound
    cases hbuiltin
    obtain ⟨before, after, hsplit, -⟩ := List.lookup_eq_some_iff.mp hfound
    have hmem : (name, schema) ∈ primitiveTypes := by simp [hsplit]
    exact wellFormed_primitiveTypes hmem
  · split_ifs at hbuiltin
    · cases hbuiltin
      exact .any
    · cases hbuiltin
      exact .list .any
    · cases hbuiltin
      exact wellFormed_mappingSchema Additional.wellFormed_allowed

theorem yields_literalSchema (args : List Expr) : Yields WellFormed (literalSchema args) := by
  unfold literalSchema
  exact .bind .anything fun values _ => .ok (.enumeration (nodup_distinctKinds _) values)

theorem wellFormed_enumSchema (baseNames : List String) (body : List Stmt) :
    WellFormed (enumSchema baseNames body) := by
  unfold enumSchema
  dsimp only
  split
  · exact .enumeration (List.nodup_singleton _) _
  · split
    · exact .enumeration (List.nodup_singleton _) _
    · exact .enumeration (List.nodup_singleton _) _

/-- There is one kind for each member. -/
theorem length_plainKinds {members : List Schema} {kinds : List Kind}
    (hkinds : plainKinds? members = .ok (some kinds)) : kinds.length = members.length := by
  fun_induction plainKinds? members generalizing kinds with
  | case1 =>
      cases hkinds
      rfl
  | case2 kind members ih =>
      obtain ⟨found, hfound, hmapped⟩ := bind_eq_ok hkinds
      obtain ⟨others, rfl, rfl⟩ := Option.map_eq_some_iff.mp (Except.ok.inj hmapped)
      simp [ih hfound]
  | case3 => cases hkinds
  | case4 => cases hkinds

/-- Kinds that are there and not all the same are at least two. -/
theorem two_le_distinctKinds {kinds : List Kind} (hkinds : kinds ≠ [])
    (hsame : ∀ kind, distinctKinds kinds ≠ [kind]) : 2 ≤ (distinctKinds kinds).length := by
  obtain ⟨kind, rest, rfl⟩ := List.exists_cons_of_ne_nil hkinds
  have hkind : kind ∈ distinctKinds (kind :: rest) := mem_distinctKinds.mpr List.mem_cons_self
  by_contra hlength
  have hone : (distinctKinds (kind :: rest)).length = 1 := by
    have := List.length_pos_of_mem hkind
    omega
  obtain ⟨only, honly⟩ := List.length_eq_one_iff.mp hone
  exact hsame only honly

/-- The union of well-formed members is well formed. -/
theorem yields_unionSchema {members : List Schema}
    (hmembers : ∀ member ∈ members, WellFormed member) :
    Yields WellFormed (unionSchema members) := by
  fun_cases unionSchema members with
  | case1 => exact .ok (.primitive .null)
  | case2 single => exact .ok (hmembers single List.mem_cons_self)
  | case3 members hempty hsingle =>
      have hseveral : 2 ≤ members.length := by
        rcases members with _ | ⟨first, _ | ⟨second, rest⟩⟩
        · exact absurd rfl hempty
        · exact absurd rfl (hsingle first)
        · simp
      have hplain : Yields (fun found => ∀ kinds, found = some kinds → kinds ≠ [])
          (plainKinds? members) := by
        rintro _ hkinds kinds rfl rfl
        have hlength := length_plainKinds hkinds
        simp only [List.length_nil] at hlength
        omega
      refine hplain.bind ?_
      intro found hfound
      cases found with
      | none => exact .ok (.anyOf hseveral hmembers)
      | some kinds =>
          dsimp only
          split
          · exact .ok (.primitive _)
          · rename_i hsame
            exact .ok (.oneOfKinds (two_le_distinctKinds (hfound kinds rfl) hsame)
              (nodup_distinctKinds kinds))

/-! ### The invariant of the rules -/

theorem Members.wellFormed_empty : Members.empty.WellFormed where
  names := List.nodup_nil
  properties := by simp [Members.empty]
  required := List.nodup_nil
  declared := by simp [Members.empty]
  additional := by
    intro schema htyped
    cases htyped

/-- Members stay well formed when those of a base are added. -/
theorem Members.WellFormed.inherit {members : Members} (hmembers : members.WellFormed)
    {schema : Schema} (hschema : Schema.WellFormed schema) :
    (members.inherit schema).WellFormed := by
  cases hschema with
  | @object properties required additional hnames hproperties hrequired hdeclared hadditional =>
      constructor
      · exact Table.nodup_names_merge properties hmembers.names
      · intro name schema note hentry
        rcases Table.mem_or_mem_of_mem_merge hentry with hold | hnew
        · exact hmembers.properties name schema note hold
        · exact hproperties name schema note hnew
      · exact nodup_addNames hmembers.required required
      · intro name hname
        rcases (mem_addNames hmembers.required).mp hname with hold | hnew
        · exact Table.mem_names_merge.mpr (.inl (hmembers.declared name hold))
        · exact Table.mem_names_merge.mpr (.inr (hdeclared name hnew))
      · cases additional with
        | forbidden => exact hmembers.additional
        | allowed => exact hadditional
        | typed schema => exact hadditional
  | _ => exact hmembers

/-- Members stay well formed when a field is added. -/
theorem Members.WellFormed.field {members : Members} (hmembers : members.WellFormed)
    {schema : Schema} (hschema : Schema.WellFormed schema) (name : String) (note : Option String)
    (isRequired : Bool) :
    Members.WellFormed
      { members with
        properties := members.properties.put name (.mk schema note)
        required :=
          if isRequired then addNames members.required [name] else members.required } := by
  constructor
  · exact Table.nodup_names_put _ _ hmembers.names
  · intro other found note hentry
    rcases Table.eq_or_mem_of_mem_put hentry with heq | hold
    · cases heq
      exact hschema
    · exact hmembers.properties other found note hold
  · dsimp only
    split
    · exact nodup_addNames hmembers.required _
    · exact hmembers.required
  · intro other hother
    rw [Table.mem_names_put]
    dsimp only at hother
    split at hother
    · rcases (mem_addNames hmembers.required).mp hother with hold | hnew
      · exact .inr (hmembers.declared other hold)
      · exact .inl (List.mem_singleton.mp hnew)
    · exact .inr (hmembers.declared other hother)
  · exact hmembers.additional

/-- Being well formed is an invariant of the rules. -/
theorem invariant_wellFormed : Invariant (fun _ => True) WellFormed Members.WellFormed where
  null := .primitive .null
  builtin := wellFormed_builtin
  literals := yields_literalSchema
  enumeration := fun _ _ => wellFormed_enumSchema _ _
  list := .list
  tuple := .tuple
  mapping := fun hvalue => wellFormed_mappingSchema (.typed hvalue)
  union := yields_unionSchema
  empty := Members.wellFormed_empty
  inherit := fun hmembers hschema => hmembers.inherit hschema
  typed := fun hmembers hschema => { hmembers with additional := .typed hschema }
  allowed := fun hmembers => { hmembers with additional := Additional.wellFormed_allowed }
  field := fun hmembers hschema => hmembers.field hschema
  object := fun hmembers description =>
    .object hmembers.names hmembers.properties hmembers.required hmembers.declared
      hmembers.additional description

/-- All answers of a resolver are well formed. -/
def Resolver.Sound (resolver : Resolver) : Prop :=
  ∀ call, Yields WellFormed (resolver.answer call)

theorem Resolver.sound_upTo (table : TypeTable) (depth : Nat) :
    (Resolver.upTo table depth).Sound := by
  intro call
  apply invariant_wellFormed.upTo (fun _ _ _ => trivial) depth call
  cases call <;> trivial

/-- The schema of a text, as the value that stands in a document, names its dialect and
then has one of the shapes of a schema, with schemas of such shapes inside. -/
theorem schemaOf_isSchema {table : TypeTable} {text : String} {schema : Schema}
    (hschema : table.schemaOf text = .ok schema) :
    ∃ entries, schema.document = .obj (("$schema", .str dialect) :: entries) ∧
      IsSchema entries := by
  refine ⟨schema.entries, rfl, WellFormed.isSchema ?_⟩
  unfold TypeTable.schemaOf at hschema
  split at hschema
  · rename_i expr _
    exact Resolver.sound_upTo table _ (.type [] expr) hschema
  · cases hschema

/-- The schema of a class that is alone in its table, from any depth that suffices. -/
theorem schemaOf_alone {name : String} {definition : ClassDef} {schema : Schema}
    (hread : readExpression? (trimString name) = some (.name name))
    (hbuiltin : builtinSchema? name = none)
    (hclass : ∀ depth, (Resolver.upTo ⟨[(name, definition)], []⟩ (depth + 3)).classType [name]
      definition = .ok schema) :
    (⟨[(name, definition)], []⟩ : TypeTable).schemaOf name = .ok schema := by
  have hdepth : TypeTable.depthFor ⟨[(name, definition)], []⟩ (.name name) =
      classDepth definition - 1 + 3 + 1 := by
    simp only [TypeTable.depthFor, List.foldr, typeDepth, classDepth]
    omega
  have hentry : Table.get? [(name, definition)] name = some definition := by
    simp [Table.get?]
  rw [schemaOf_eq hread, TypeTable.resolve, hdepth]
  simp only [Resolver.upTo, resolveType, resolveName, hbuiltin, hentry, List.contains_nil]
  exact hclass _

/-- A class with a mapping type among its bases, a union and a tuple. -/
def visitClass : ClassDef :=
  .mk "Visit" [.subscript (.name "Dict") (.tuple [.name "str", .name "float"])] [] []
    [.annotated ⟨2, 4⟩ (.name "id") (.binary (.name "int") .bitOr (.name "str")) none,
      .annotated ⟨3, 4⟩ (.name "stay") (.subscript (.name "tuple")
        (.tuple [.name "date", .name "Any"])) (some (.literal .none))]

def visitTable : TypeTable where
  classes := [("Visit", visitClass)]
  aliases := []

def visitSchema : Schema :=
  .object
    [("id", .mk (.oneOfKinds [.number, .string]) none),
      ("stay", .mk (.tuple [.primitive .string (some "date"), .any]) none)]
    ["id"] (.typed (.primitive .number none)) none

theorem schemaOf_visit : visitTable.schemaOf "Visit" = .ok visitSchema := by
  have hread : readExpression? (trimString "Visit") = some (.name "Visit") := by
    cbv
  have hfields : fieldsOf visitClass.body =
      [⟨"id", .binary (.name "int") .bitOr (.name "str"), false, ""⟩,
        ⟨"stay", .subscript (.name "tuple") (.tuple [.name "date", .name "Any"]), true, ""⟩] := by
    cbv
  apply schemaOf_alone hread (by decide)
  intro depth
  change resolveClass visitTable (Resolver.upTo visitTable (depth + 2)) ["Visit"] visitClass = _
  unfold resolveClass
  rw [hfields]
  rfl

theorem schemaOf_isSchema_visit :
    visitTable.schemaOf "Visit" = .ok visitSchema ∧
      ∃ entries, visitSchema.document = .obj (("$schema", .str dialect) :: entries) ∧
        IsSchema entries :=
  ⟨schemaOf_visit, schemaOf_isSchema schemaOf_visit⟩

end RouteScribe.Schema
