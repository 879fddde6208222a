import RouteScribe.Proofs.Example.Conformance
import RouteScribe.Proofs.Schema.Shape

/-!
# What an enumeration lists

A schema that lists values also names a type for them.  The values of literals get the
kinds that they have, so that their types always fit.  The type of an enumeration class is
chosen by its bases or else by its members, where a single kind stands for all of them.  It
fits exactly if the members of a numeric enumeration are numbers and those of any other
enumeration are of one kind; a member without a literal counts by its name.
-/

namespace RouteScribe.Schema

open RouteScribe.Json RouteScribe.Source RouteScribe.Text RouteScribe.Example Relation

/-! ### Kinds of values -/

/-- A text, a number, a truth value or nothing. -/
def IsScalar : Value → Prop
  | .null | .bool _ | .int _ | .float _ | .str _ => True
  | .arr _ | .obj _ | .foreign _ => False

theorem typeWord?_of_isScalar {value : Value} (hscalar : IsScalar value) :
    typeWord? value = some (Kind.ofValue value).word := by
  cases value with
  | arr | obj | foreign => cases hscalar
  | _ => rfl

/-- A value without a form of its own counts as a text. -/
theorem isScalar_of_ofValue {value : Value} (hkind : Kind.ofValue value ≠ .string) :
    IsScalar value := by
  cases value with
  | arr | obj | foreign => exact absurd rfl hkind
  | _ => trivial

theorem Kind.word_injective : Function.Injective Kind.word := by
  intro left right hword
  cases left <;> cases right <;> first | rfl | exact absurd hword (by decide)

/-- A type that is written for some kinds admits the values of these kinds. -/
theorem admits_iff_mem {schema value : Value} {kinds : List Kind}
    (htype : schema.get? "type" = some (kindsValue kinds)) (hscalar : IsScalar value) :
    Admits schema value ↔ Kind.ofValue value ∈ kinds := by
  have hword : Admits schema value ↔
      schema.get? "type" = some (.str (Kind.ofValue value).word) ∨
        ∃ words, schema.get? "type" = some (.arr words) ∧
          Value.str (Kind.ofValue value).word ∈ words := by
    simp only [Admits, typeWord?_of_isScalar hscalar, Option.some.injEq, exists_eq_left']
  rw [hword, htype]
  unfold kindsValue
  split
  · rename_i kind
    simp only [Option.some.injEq, Value.str.injEq, reduceCtorEq, false_and, exists_false, or_false,
      List.mem_singleton]
    rw [Kind.word_injective.eq_iff, eq_comm]
  · simp only [Value.strings, Option.some.injEq, reduceCtorEq, Value.arr.injEq, exists_eq_left',
      List.mem_map, Value.str.injEq, false_or, exists_exists_and_eq_and]
    constructor
    · rintro ⟨kind, hkind, hsame⟩
      rwa [← Kind.word_injective hsame]
    · intro hkind
      exact ⟨_, hkind, rfl⟩

/-! ### Literals and enumeration classes -/

/-- The type of literals names the kind of each of them. -/
theorem mem_kinds_of_literalSchema {args : List Expr} {kinds : List Kind} {values : List Value}
    (hliteral : literalSchema args = .ok (.enumeration kinds values)) {value : Value}
    (hvalue : value ∈ values) : Kind.ofValue value ∈ kinds := by
  unfold literalSchema at hliteral
  obtain ⟨found, -, hresult⟩ := bind_eq_ok hliteral
  cases hresult
  exact mem_distinctKinds.mpr (List.mem_map_of_mem hvalue)

/-- The bases of an enumeration say that its members are numbers. -/
def IsNumeric (definition : ClassDef) : Prop :=
  (definition.bases.map Expr.genericName).any numberEnumBases.contains = true

instance (definition : ClassDef) : Decidable (IsNumeric definition) :=
  inferInstanceAs (Decidable (_ = true))

/-- The members of an enumeration have one kind, and that of numbers if its bases say so. -/
def IsUniform (definition : ClassDef) : Prop :=
  if IsNumeric definition then
    ∀ value ∈ enumValues definition.body, IsScalar value → Kind.ofValue value = .number
  else
    ∀ value ∈ enumValues definition.body, ∀ other ∈ enumValues definition.body,
      Kind.ofValue value = Kind.ofValue other

theorem eq_of_mem_of_distinctKinds {kinds : List Kind} {only kind : Kind}
    (honly : distinctKinds kinds = [only]) (hkind : kind ∈ kinds) : kind = only := by
  have hmem := mem_distinctKinds.mpr hkind
  rw [honly] at hmem
  exact List.mem_singleton.mp hmem

/-- Equal kinds are listed once. -/
theorem distinctKinds_of_same {kinds : List Kind} {kind : Kind} (hkind : kind ∈ kinds)
    (hsame : ∀ other ∈ kinds, other = kind) : distinctKinds kinds = [kind] := by
  have hall : ∀ other ∈ distinctKinds kinds, other = kind :=
    fun other hother => hsame other (mem_distinctKinds.mp hother)
  have hmem : kind ∈ distinctKinds kinds := mem_distinctKinds.mpr hkind
  have hnodup := nodup_distinctKinds kinds
  rcases hfound : distinctKinds kinds with _ | ⟨first, _ | ⟨second, rest⟩⟩
  · rw [hfound] at hmem
    cases hmem
  · rw [hfound] at hall
    rw [hall first List.mem_cons_self]
  · rw [hfound] at hall hnodup
    have hfirst := hall first List.mem_cons_self
    have hsecond := hall second (List.mem_cons_of_mem first List.mem_cons_self)
    simp [hfirst, hsecond] at hnodup

/-- The schema of an enumeration class has one kind, and the members fit it exactly if they
are uniform. -/
theorem enumSchema_fits_iff (definition : ClassDef) :
    ∃ kind, enumSchema (definition.bases.map Expr.genericName) definition.body =
        .enumeration [kind] (enumValues definition.body) ∧
      ((∀ value ∈ enumValues definition.body, IsScalar value → Kind.ofValue value = kind) ↔
        IsUniform definition) := by
  have hbases : (definition.bases.map Expr.genericName).any numberEnumBases.contains = true ↔
      IsNumeric definition := Iff.rfl
  simp only [enumSchema, IsUniform, hbases]
  by_cases hnumeric : IsNumeric definition
  · rw [if_pos hnumeric, if_pos hnumeric]
    exact ⟨.number, rfl, Iff.rfl⟩
  · rw [if_neg hnumeric, if_neg hnumeric]
    split
    · rename_i kind hkind
      have hall : ∀ value ∈ enumValues definition.body, Kind.ofValue value = kind :=
        fun value hvalue => eq_of_mem_of_distinctKinds hkind (List.mem_map_of_mem hvalue)
      refine ⟨kind, rfl, iff_of_true (fun value hvalue _ => hall value hvalue) ?_⟩
      intro value hvalue other hother
      rw [hall value hvalue, hall other hother]
    · rename_i hnot
      refine ⟨.string, rfl, ?_⟩
      constructor
      · intro hfits
        have hall : ∀ value ∈ enumValues definition.body, Kind.ofValue value = .string := by
          intro value hvalue
          by_contra hkind
          exact hkind (hfits value hvalue (isScalar_of_ofValue hkind))
        intro value hvalue other hother
        rw [hall value hvalue, hall other hother]
      · intro huniform value hvalue
        -- Members of one kind would have been given that kind.
        refine absurd (distinctKinds_of_same (List.mem_map_of_mem hvalue) ?_)
          (hnot (Kind.ofValue value))
        intro kind hkind
        obtain ⟨other, hother, rfl⟩ := List.mem_map.mp hkind
        exact huniform other hother value hvalue

/-! ### Schemas whose lists have a source -/

/-- Each list of values in a schema, with the kinds of its type, comes from a source. -/
inductive ListsFrom (source : List Kind → List Value → Prop) : Schema → Prop where
  | any : ListsFrom source .any
  | primitive (kind : Kind) (format : Option String) : ListsFrom source (.primitive kind format)
  | list {item : Schema} (hitem : ListsFrom source item) : ListsFrom source (.list item)
  | tuple {items : List Schema} (hitems : ∀ item ∈ items, ListsFrom source item) :
      ListsFrom source (.tuple items)
  | object {properties : Table Property} {additional : Additional}
      (hproperties : ∀ name schema note, (name, .mk schema note) ∈ properties →
        ListsFrom source schema)
      (hadditional : ∀ schema, additional = .typed schema → ListsFrom source schema)
      (required : List String) (description : Option String) :
      ListsFrom source (.object properties required additional description)
  | enumeration {kinds : List Kind} {values : List Value} (hsource : source kinds values) :
      ListsFrom source (.enumeration kinds values)
  | oneOfKinds (kinds : List Kind) : ListsFrom source (.oneOfKinds kinds)
  | anyOf {members : List Schema} (hmembers : ∀ member ∈ members, ListsFrom source member) :
      ListsFrom source (.anyOf members)

/-- Each list of values in a schema as a value, at every depth, comes from a source. -/
def Grounded (source : List Kind → List Value → Prop) (schema : Value) : Prop :=
  ∀ ⦃part⦄, ReflTransGen PartOf part schema → ∀ ⦃values⦄, part.get? "enum" = some (.arr values) →
    ∃ kinds, source kinds values ∧ part.get? "type" = some (kindsValue kinds)

section Grounded

variable {source : List Kind → List Value → Prop}

theorem Grounded.of_parts {schema : Value}
    (hhere : ∀ values, schema.get? "enum" = some (.arr values) →
      ∃ kinds, source kinds values ∧ schema.get? "type" = some (kindsValue kinds))
    (hparts : ∀ part, PartOf part schema → Grounded source part) : Grounded source schema := by
  intro part hpart
  cases hpart with
  | refl => exact hhere
  | tail hinner hlast => exact hparts _ hlast hinner

/-- What is no object is no schema. -/
theorem grounded_of_get? {value : Value} (hnothing : ∀ key, value.get? key = none) :
    Grounded source value := by
  apply Grounded.of_parts
  · simp [hnothing]
  · intro part hpart
    cases hpart <;> simp_all

theorem saysMore_withDescription (entries : Table Value) (note : Option String) :
    SaysMore entries (withDescription entries note) := by
  intro key hdescription _
  cases note with
  | none => rfl
  | some text => exact Table.get?_put_of_ne hdescription _ _

theorem saysMore_trans {entries more most : Table Value} (hmore : SaysMore entries more)
    (hmost : SaysMore more most) : SaysMore entries most := by
  intro key hdescription hdialect
  rw [hmost key hdescription hdialect, hmore key hdescription hdialect]

/-- Remarks are no parts of a schema. -/
theorem partOf_of_saysMore {entries more : Table Value} (hmore : SaysMore entries more)
    {part : Value} (hpart : PartOf part (.obj more)) : PartOf part (.obj entries) := by
  have hget : ∀ key, key ≠ "description" → key ≠ "$schema" →
      (Value.obj more).get? key = (Value.obj entries).get? key := hmore
  cases hpart with
  | item hitem => exact .item (hget "items" (by decide) (by decide) ▸ hitem)
  | position hitems hmem => exact .position (hget "items" (by decide) (by decide) ▸ hitems) hmem
  | property hproperties hmem =>
      exact .property (hget "properties" (by decide) (by decide) ▸ hproperties) hmem
  | additional hadditional =>
      exact .additional (hget "additionalProperties" (by decide) (by decide) ▸ hadditional)
  | choice hmembers hmem => exact .choice (hget "anyOf" (by decide) (by decide) ▸ hmembers) hmem

theorem Grounded.of_saysMore {entries more : Table Value} (hmore : SaysMore entries more)
    (hhere : ∀ values, entries.get? "enum" = some (.arr values) →
      ∃ kinds, source kinds values ∧ entries.get? "type" = some (kindsValue kinds))
    (hparts : ∀ part, PartOf part (.obj entries) → Grounded source part) :
    Grounded source (.obj more) := by
  apply Grounded.of_parts
  · simp only [get?_obj]
    rw [hmore "enum" (by decide) (by decide), hmore "type" (by decide) (by decide)]
    exact hhere
  · exact fun part hpart => hparts part (partOf_of_saysMore hmore hpart)

/-- A schema without parts is grounded if its own list is. -/
theorem grounded_leaf {entries more : Table Value} (hmore : SaysMore entries more)
    (hhere : ∀ values, entries.get? "enum" = some (.arr values) →
      ∃ kinds, source kinds values ∧ entries.get? "type" = some (kindsValue kinds))
    (hitems : entries.get? "items" = none) (hproperties : entries.get? "properties" = none)
    (hadditional : entries.get? "additionalProperties" = none)
    (hchoice : entries.get? "anyOf" = none) : Grounded source (.obj more) := by
  apply Grounded.of_saysMore hmore hhere
  intro part hpart
  cases hpart with
  | item hfound => simp [get?_obj, hitems] at hfound
  | position hfound => simp [get?_obj, hitems] at hfound
  | property hfound => simp [get?_obj, hproperties] at hfound
  | additional hfound => simp [get?_obj, hadditional] at hfound
  | choice hfound => simp [get?_obj, hchoice] at hfound

theorem grounded_of_mem_schemaValues {schemas : List Schema} {part : Value}
    (hschemas : ∀ schema ∈ schemas, ∀ ⦃more⦄, SaysMore schema.entries more →
      Grounded source (.obj more))
    (hpart : part ∈ schemaValues schemas) : Grounded source part := by
  rw [schemaValues_eq_map, List.map_map] at hpart
  obtain ⟨schema, hschema, rfl⟩ := List.mem_map.mp hpart
  exact hschemas schema hschema fun _ _ _ => rfl

theorem Additional.grounded_value {additional : Additional}
    (hadditional : ∀ schema, additional = .typed schema → ∀ ⦃more⦄,
      SaysMore schema.entries more → Grounded source (.obj more)) :
    Grounded source additional.value := by
  cases additional with
  | typed schema => exact hadditional schema rfl fun _ _ _ => rfl
  | forbidden | allowed => exact grounded_of_get? fun _ => rfl

/-- The lists of a schema have their source whatever remarks are added to it. -/
theorem ListsFrom.grounded {schema : Schema} (hschema : ListsFrom source schema)
    {more : Table Value} (hmore : SaysMore schema.entries more) :
    Grounded source (.obj more) := by
  induction hschema generalizing more with
  | any => exact grounded_leaf hmore (fun _ hfound => nomatch hfound) rfl rfl rfl rfl
  | primitive kind format =>
      cases format with
      | none => exact grounded_leaf hmore (fun _ hfound => nomatch hfound) rfl rfl rfl rfl
      | some format => exact grounded_leaf hmore (fun _ hfound => nomatch hfound) rfl rfl rfl rfl
  | oneOfKinds kinds =>
      exact grounded_leaf hmore (fun _ hfound => nomatch hfound) rfl rfl rfl rfl
  | @enumeration kinds values hsource =>
      apply grounded_leaf hmore _ rfl rfl rfl rfl
      intro found hfound
      cases hfound
      exact ⟨kinds, hsource, rfl⟩
  | list _ ih =>
      apply Grounded.of_saysMore hmore (fun _ hfound => nomatch hfound)
      intro part hpart
      cases hpart with
      | item hitem =>
          cases hitem
          exact ih fun _ _ _ => rfl
      | position hfound | property hfound | additional hfound | choice hfound => cases hfound
  | tuple _ ih =>
      apply Grounded.of_saysMore hmore (fun _ hfound => nomatch hfound)
      intro part hpart
      cases hpart with
      | item hitem =>
          cases hitem
          exact grounded_of_get? fun _ => rfl
      | position hitems hmem =>
          cases hitems
          exact grounded_of_mem_schemaValues ih hmem
      | property hfound | additional hfound | choice hfound => cases hfound
  | anyOf _ ih =>
      apply Grounded.of_saysMore hmore (fun _ hfound => nomatch hfound)
      intro part hpart
      cases hpart with
      | choice hmembers hmem =>
          cases hmembers
          exact grounded_of_mem_schemaValues ih hmem
      | item hfound | position hfound | property hfound | additional hfound => cases hfound
  | @object properties additional _ _ required description ihProperties ihAdditional =>
      have hplain := saysMore_trans (saysMore_withDescription _ description) hmore
      rw [requiredEntry_eq] at hplain
      apply Grounded.of_saysMore hplain
      · split <;> exact fun _ hfound => nomatch hfound
      intro part hpart
      cases hpart with
      | property hproperties hmem =>
          cases hproperties
          rw [propertyEntries_eq_map, List.map_map] at hmem
          obtain ⟨⟨name, schema, note⟩, hentry, heq⟩ := List.mem_map.mp hmem
          cases heq
          exact ihProperties name schema note hentry (saysMore_withDescription _ note)
      | additional hadditional =>
          have hvalue : part = additional.value := by
            split at hadditional <;> exact (Option.some.inj hadditional).symm
          rw [hvalue]
          exact Additional.grounded_value ihAdditional
      | item hfound | position hfound | choice hfound => split at hfound <;> cases hfound

end Grounded

/-! ### Where the rules take values from -/

/-- The values that a type can list, with the kinds of its type: some literals, or the
members of an enumeration class. -/
inductive TypeTable.Lists (table : TypeTable) : List Kind → List Value → Prop where
  | literals {args : List Expr} {kinds : List Kind} {values : List Value}
      (hliteral : literalSchema args = .ok (.enumeration kinds values)) :
      Lists table kinds values
  | members {name : String} {definition : ClassDef} {kinds : List Kind} {values : List Value}
      (hclass : table.classes.get? name = some definition) (henum : IsEnumeration definition)
      (hschema : enumSchema (definition.bases.map Expr.genericName) definition.body =
        .enumeration kinds values) :
      Lists table kinds values

/-- Each list in what a class has collected comes from a source. -/
structure Members.ListsFrom (source : List Kind → List Value → Prop) (members : Members) :
    Prop where
  properties : ∀ name schema note, (name, .mk schema note) ∈ members.properties →
    Schema.ListsFrom source schema
  additional : ∀ schema, members.additional = .typed schema → Schema.ListsFrom source schema

section Source

variable {source : List Kind → List Value → Prop} {schema : Schema} {members : Members}

/-- A built-in type lists no values. -/
theorem listsFrom_builtin {name : String} (hbuiltin : builtinSchema? name = some schema) :
    ListsFrom source schema := by
  unfold builtinSchema? at hbuiltin
  split at hbuiltin
  · rename_i hfound
    cases hbuiltin
    have hall : ∀ entry ∈ primitiveTypes, ∃ kind format, entry.2 = .primitive kind format := by
      simp [primitiveTypes]
    obtain ⟨kind, format, rfl⟩ : ∃ kind format, schema = .primitive kind format :=
      hall _ (Table.mem_of_get? hfound)
    exact .primitive kind format
  · split_ifs at hbuiltin
    · cases hbuiltin
      exact .any
    · cases hbuiltin
      exact .list .any
    · cases hbuiltin
      exact .object (by simp) (by simp) [] none

/-- A union lists the values of its members only. -/
theorem listsFrom_unionSchema {schemas : List Schema}
    (hschemas : ∀ schema ∈ schemas, ListsFrom source schema) :
    Yields (ListsFrom source) (unionSchema schemas) := by
  fun_cases unionSchema schemas with
  | case1 => exact .ok (.primitive .null none)
  | case2 single => exact .ok (hschemas single List.mem_cons_self)
  | case3 =>
      refine .bind .anything fun found _ => ?_
      cases found with
      | none => exact .ok (.anyOf hschemas)
      | some kinds =>
          dsimp only
          split
          · exact .ok (.primitive _ none)
          · exact .ok (.oneOfKinds _)

theorem Members.ListsFrom.typed (hmembers : members.ListsFrom source)
    (hschema : Schema.ListsFrom source schema) :
    Members.ListsFrom source { members with additional := .typed schema } := by
  refine ⟨hmembers.properties, fun found hfound => ?_⟩
  cases hfound
  exact hschema

theorem Members.ListsFrom.inherit (hmembers : members.ListsFrom source)
    (hschema : Schema.ListsFrom source schema) : (members.inherit schema).ListsFrom source := by
  cases hschema with
  | @object properties additional hproperties hadditional =>
      constructor
      · intro name schema note hentry
        rcases Table.mem_or_mem_of_mem_merge hentry with hold | hnew
        · exact hmembers.properties name schema note hold
        · exact hproperties name schema note hnew
      · cases additional with
        | forbidden => exact hmembers.additional
        | allowed | typed => exact hadditional
  | _ => exact hmembers

theorem Members.ListsFrom.field (hmembers : members.ListsFrom source)
    (hschema : Schema.ListsFrom source schema) (name : String) (note : Option String)
    (required : List String) :
    Members.ListsFrom source
      ⟨members.properties.put name (.mk schema note), required, members.additional⟩ := by
  refine ⟨fun other found note hentry => ?_, hmembers.additional⟩
  rcases Table.eq_or_mem_of_mem_put hentry with heq | hold
  · cases heq
    exact hschema
  · exact hmembers.properties other found note hold

end Source

/-- The rules list no values but those of literals and of enumeration classes. -/
theorem invariant_listsFrom (table : TypeTable) :
    Invariant (fun definition => ∃ name, table.classes.get? name = some definition)
      (ListsFrom table.Lists) (Members.ListsFrom table.Lists) where
  null := .primitive .null none
  builtin := listsFrom_builtin
  literals := by
    intro args schema hschema
    obtain ⟨values, -, hresult⟩ := bind_eq_ok hschema
    cases hresult
    exact .enumeration (.literals hschema)
  enumeration := by
    rintro definition ⟨name, hclass⟩ henum
    obtain ⟨kind, hschema, -⟩ := enumSchema_fits_iff definition
    exact hschema ▸ .enumeration (.members hclass henum hschema)
  list := .list
  tuple := .tuple
  mapping := fun hvalue =>
    .object (by simp) (fun _ hfound => Additional.typed.inj hfound ▸ hvalue) [] none
  union := listsFrom_unionSchema
  empty := ⟨by simp [Members.empty], by simp [Members.empty]⟩
  inherit := Members.ListsFrom.inherit
  typed := Members.ListsFrom.typed
  allowed := fun hmembers => ⟨hmembers.properties, by simp⟩
  field := fun hmembers hschema name note _ => hmembers.field hschema name note _
  object := fun hmembers description =>
    .object hmembers.properties hmembers.additional _ description

theorem listsFrom_of_schemaOf {table : TypeTable} {text : String} {schema : Schema}
    (hschema : table.schemaOf text = .ok schema) : ListsFrom table.Lists schema := by
  unfold TypeTable.schemaOf at hschema
  split at hschema
  · rename_i expr _
    exact (invariant_listsFrom table).upTo (fun name _ hclass => ⟨name, hclass⟩) _
      (.type [] expr) trivial hschema
  · cases hschema

/-! ### The types of what is listed -/

/-- Wherever the schema of a text lists values, at any depth, they are literals, whose kinds
the type admits, or the members of an enumeration class.  The type admits the kinds of all
members exactly if these are uniform. -/
theorem enumeration_fits_iff {table : TypeTable} {text : String} {schema : Schema}
    (hschema : table.schemaOf text = .ok schema) {part : Value} {values : List Value}
    (hpart : ReflTransGen PartOf part schema.document)
    (hvalues : part.get? "enum" = some (.arr values)) :
    (∃ args kinds, literalSchema args = .ok (.enumeration kinds values) ∧
      ∀ value ∈ values, IsScalar value → Admits part value) ∨
    ∃ name definition, table.classes.get? name = some definition ∧ IsEnumeration definition ∧
      values = enumValues definition.body ∧
      ((∀ value ∈ values, IsScalar value → Admits part value) ↔ IsUniform definition) := by
  have hremarks : SaysMore schema.entries (("$schema", .str dialect) :: schema.entries) := by
    intro key _ hdialect
    exact Table.get?_cons_of_ne hdialect _ _
  obtain ⟨kinds, hsource, htype⟩ :=
    (listsFrom_of_schemaOf hschema).grounded hremarks hpart hvalues
  cases hsource with
  | @literals args _ _ hliteral =>
      refine .inl ⟨args, kinds, hliteral, fun value hvalue hscalar => ?_⟩
      exact (admits_iff_mem htype hscalar).mpr (mem_kinds_of_literalSchema hliteral hvalue)
  | @members name definition _ _ hclass henum hmembers =>
      obtain ⟨kind, hkind, hfits⟩ := enumSchema_fits_iff definition
      rw [hkind] at hmembers
      cases hmembers
      refine .inr ⟨name, definition, hclass, henum, rfl, ?_⟩
      rw [← hfits]
      refine forall_congr' fun value => forall_congr' fun _ => forall_congr' fun hscalar => ?_
      rw [admits_iff_mem htype hscalar, List.mem_singleton]

def gateClass : ClassDef :=
  .mk "Gate" [.name "Enum"] [] []
    [.assign ⟨2, 4⟩ [.name "OPEN"] (.literal (.str "open" false)),
      .assign ⟨3, 4⟩ [.name "SHUT"] (.literal (.str "shut" false))]

/-- A numeric enumeration whose member has no literal. -/
def levelClass : ClassDef :=
  .mk "Level" [.name "IntEnum"] [] []
    [.assign ⟨2, 4⟩ [.name "LOW"] (.call ⟨2, 10⟩ (.name "auto") [] [])]

/-- An enumeration with members of two kinds. -/
def modeClass : ClassDef :=
  .mk "Mode" [.name "Enum"] [] []
    [.assign ⟨2, 4⟩ [.name "ON"] (.literal (.int ⟨1, rfl⟩)),
      .assign ⟨3, 4⟩ [.name "OFF"] (.literal (.str "off" false))]

/-- The schema of an enumeration class that is alone in its table. -/
theorem schemaOf_enumeration {name : String} {definition : ClassDef}
    (hread : readExpression? (trimString name) = some (.name name))
    (hbuiltin : builtinSchema? name = none) (henum : IsEnumeration definition) {schema : Schema}
    (hschema : enumSchema (definition.bases.map Expr.genericName) definition.body = schema) :
    (⟨[(name, definition)], []⟩ : TypeTable).schemaOf name = .ok schema := by
  apply schemaOf_alone hread hbuiltin
  intro depth
  rw [Resolver.upTo, ← hschema]
  exact if_pos henum

def gateTable : TypeTable where
  classes := [("Gate", gateClass)]
  aliases := []

def gateSchema : Schema :=
  .enumeration [.string] [.str "open", .str "shut"]

theorem schemaOf_gate : gateTable.schemaOf "Gate" = .ok gateSchema := by
  have hread : readExpression? (trimString "Gate") = some (.name "Gate") := by
    cbv
  apply schemaOf_enumeration hread (by decide) (by decide)
  cbv

/-- A gate that is open or shut lists strings and admits them. -/
theorem enumeration_fits_iff_gate :
    gateTable.schemaOf "Gate" = .ok gateSchema ∧
      gateSchema.document.get? "enum" = some (.arr [.str "open", .str "shut"]) ∧
      IsUniform gateClass ∧ Admits gateSchema.document (.str "shut") := by
  have huniform : IsUniform gateClass := by
    have hvalues : enumValues gateClass.body = [.str "open", .str "shut"] := by
      cbv
    have hnumeric : ¬ IsNumeric gateClass := by
      decide
    rw [IsUniform, if_neg hnumeric, hvalues]
    decide
  have hmem : Value.str "shut" ∈ [Value.str "open", .str "shut"] := by
    simp
  refine ⟨schemaOf_gate, rfl, huniform, ?_⟩
  rcases enumeration_fits_iff schemaOf_gate .refl rfl with
    ⟨-, -, -, hall⟩ | ⟨name, definition, hclass, -, -, hall⟩
  · exact hall _ hmem trivial
  · obtain rfl : definition = gateClass := by
      have hentry : name = "Gate" ∧ definition = gateClass := by
        simpa [gateTable] using Table.mem_of_get? hclass
      exact hentry.2
    exact hall.mpr huniform _ hmem trivial

def levelTable : TypeTable where
  classes := [("Level", levelClass)]
  aliases := []

def levelSchema : Schema :=
  .enumeration [.number] [.str "LOW"]

def modeTable : TypeTable where
  classes := [("Mode", modeClass)]
  aliases := []

def modeSchema : Schema :=
  .enumeration [.string] [.int 1, .str "off"]

theorem schemaOf_level : levelTable.schemaOf "Level" = .ok levelSchema := by
  have hread : readExpression? (trimString "Level") = some (.name "Level") := by
    cbv
  apply schemaOf_enumeration hread (by decide) (by decide)
  cbv

theorem schemaOf_mode : modeTable.schemaOf "Mode" = .ok modeSchema := by
  have hread : readExpression? (trimString "Mode") = some (.name "Mode") := by
    cbv
  apply schemaOf_enumeration hread (by decide) (by decide)
  cbv

/-- A numeric enumeration lists the name of a member that has no literal, and an enumeration
with members of two kinds lists a number under the type of texts. -/
theorem listed_not_admitted :
    levelTable.schemaOf "Level" = .ok levelSchema ∧
      levelSchema.document.get? "enum" = some (.arr [.str "LOW"]) ∧
      ¬ Admits levelSchema.document (.str "LOW") ∧
      modeTable.schemaOf "Mode" = .ok modeSchema ∧
      modeSchema.document.get? "enum" = some (.arr [.int 1, .str "off"]) ∧
      ¬ Admits modeSchema.document (.int 1) := by
  have hlevel : levelSchema.document.get? "type" = some (kindsValue [.number]) := rfl
  have hmode : modeSchema.document.get? "type" = some (kindsValue [.string]) := rfl
  refine ⟨schemaOf_level, rfl, ?_, schemaOf_mode, rfl, ?_⟩
  · rw [admits_iff_mem hlevel (by trivial)]
    decide
  · rw [admits_iff_mem hmode (by trivial)]
    decide

end RouteScribe.Schema
