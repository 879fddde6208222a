import RouteScribe.Proofs.Example.Conformance

/-!
# Examples by name act on properties

The table of examples is asked for the name of a value, and only properties have one.  What
the table says under any other name than those of the properties of a schema is therefore
never seen, and neither the elements of an array nor a further entry of an object can be
replaced.  The properties inside of them can, since the same table is used at every depth.
-/

namespace RouteScribe.Example

open RouteScribe.Json RouteScribe.Config Relation

variable {defaults : Defaults} {left right table : Table Value} {name : Option String}

/-! ### Names in a schema -/

/-- A schema declares a property of a name. -/
def Declares (schema : Value) (key : String) : Prop :=
  ∃ properties, schema.get? "properties" = some (.obj properties) ∧ key ∈ Table.names properties

/-- A property of a name is declared in a schema, at any depth. -/
def HasProperty (schema : Value) (key : String) : Prop :=
  ∃ part, ReflTransGen PartOf part schema ∧ Declares part key

theorem HasProperty.of_part {schema part : Value} {key : String} (hpart : PartOf part schema)
    (hkey : HasProperty part key) : HasProperty schema key := by
  obtain ⟨inner, hinner, hdeclares⟩ := hkey
  exact ⟨inner, hinner.tail hpart, hdeclares⟩

/-- A property in a schema is one of its own or one in a part of it. -/
theorem HasProperty.declares_or_part {schema : Value} {key : String}
    (hkey : HasProperty schema key) :
    Declares schema key ∨ ∃ part, PartOf part schema ∧ HasProperty part key := by
  obtain ⟨inner, hinner, hdeclares⟩ := hkey
  cases hinner with
  | refl => exact .inl hdeclares
  | tail hwithin hpart => exact .inr ⟨_, hpart, inner, hwithin, hdeclares⟩

/-- A schema without parts has no property inside. -/
theorem not_hasProperty_of_leaf {schema : Value} {key : String}
    (hitems : schema.get? "items" = none) (hproperties : schema.get? "properties" = none)
    (hadditional : schema.get? "additionalProperties" = none)
    (hchoice : schema.get? "anyOf" = none) : ¬ HasProperty schema key := by
  intro hkey
  obtain ⟨properties, hfound, -⟩ | ⟨part, hpart, -⟩ := hkey.declares_or_part
  · simp [hproperties] at hfound
  · cases hpart with
    | item hfound => simp [hitems] at hfound
    | position hfound => simp [hitems] at hfound
    | property hfound => simp [hproperties] at hfound
    | additional hfound => simp [hadditional] at hfound
    | choice hfound => simp [hchoice] at hfound

theorem HasProperty.of_entry {schema : Value} {properties : Table Value} {entry : String × Value}
    (hproperties : schema.get? "properties" = some (.obj properties))
    (hentry : entry ∈ properties) : HasProperty schema entry.1 :=
  ⟨schema, .refl, properties, hproperties, List.mem_map_of_mem hentry⟩

/-- Two tables say the same under some names, and have the same of them. -/
def AgreeOn (left right : Table Value) (holds : String → Prop) : Prop :=
  ∀ key, holds key → left.get? key = right.get? key

/-! ### Two tables that agree on the names in a schema -/

theorem sizeOf_lt_obj {entries : Table Value} {key : String} {value : Value}
    (hentry : (key, value) ∈ entries) : sizeOf value < sizeOf (Value.obj entries) := by
  have hsize := List.sizeOf_lt_of_mem hentry
  rw [Prod.mk.sizeOf_spec] at hsize
  rw [Value.obj.sizeOf_spec]
  omega

theorem sizeOf_lt_arr {items : List Value} {value : Value} (hitem : value ∈ items) :
    sizeOf value < sizeOf (Value.arr items) := by
  have hsize := List.sizeOf_lt_of_mem hitem
  rw [Value.arr.sizeOf_spec]
  omega

theorem sizeOf_get? {value found : Value} {key : String} (hfound : value.get? key = some found) :
    sizeOf found < sizeOf value := by
  cases value with
  | obj entries => exact sizeOf_lt_obj (Table.mem_of_get? hfound)
  | _ => cases hfound

theorem PartOf.sizeOf_lt {part whole : Value} (hpart : PartOf part whole) :
    sizeOf part < sizeOf whole := by
  cases hpart with
  | item hitem => exact sizeOf_get? hitem
  | position hitems hmem => exact (sizeOf_lt_arr hmem).trans (sizeOf_get? hitems)
  | property hproperties hmem => exact (sizeOf_lt_obj hmem).trans (sizeOf_get? hproperties)
  | additional hadditional => exact sizeOf_get? hadditional
  | choice hmembers hmem => exact (sizeOf_lt_arr hmem).trans (sizeOf_get? hmembers)

theorem ofNamed_congr {schemas : Table Value}
    (hsame : ∀ entry ∈ schemas, ofSchema defaults left (some entry.1) entry.2 =
      ofSchema defaults right (some entry.1) entry.2) :
    ofNamed defaults left schemas = ofNamed defaults right schemas := by
  induction schemas with
  | nil => rfl
  | cons entry schemas ih =>
      rw [List.forall_mem_cons] at hsame
      rw [ofNamed, ofNamed, hsame.1, ih hsame.2]

theorem ofPositions_congr {schemas : List Value}
    (hsame : ∀ schema ∈ schemas, ofSchema defaults left none schema =
      ofSchema defaults right none schema) :
    ofPositions defaults left schemas = ofPositions defaults right schemas := by
  induction schemas with
  | nil => rfl
  | cons schema schemas ih =>
      rw [List.forall_mem_cons] at hsame
      rw [ofPositions, ofPositions, hsame.1, ih hsame.2]

/-- What a schema is made of decides about its example. -/
theorem ofSchema_congr_of_parts {entries : Table Value}
    (hname : named? left name = named? right name)
    (hproperties : ∀ properties, entries.get? "properties" = some (.obj properties) →
      ∀ entry ∈ properties, ofSchema defaults left (some entry.1) entry.2 =
        ofSchema defaults right (some entry.1) entry.2)
    (hparts : ∀ part, PartOf part (.obj entries) →
      ofSchema defaults left none part = ofSchema defaults right none part) :
    ofSchema defaults left name (.obj entries) = ofSchema defaults right name (.obj entries) := by
  have hmembers : ofProperties defaults left entries = ofProperties defaults right entries := by
    rw [ofProperties_eq, ofProperties_eq]
    cases hfound : entries.get? "properties" with
    | none => rfl
    | some found =>
        cases found with
        | obj properties => exact ofNamed_congr (hproperties properties hfound)
        | _ => rfl
  have hfurther : ofAdditional defaults left entries = ofAdditional defaults right entries := by
    rw [ofAdditional_eq, ofAdditional_eq]
    cases hfound : entries.get? "additionalProperties" with
    | none => rfl
    | some found =>
        cases found with
        | obj additional =>
            simp only [fromAdditional, hparts (.obj additional) (.additional hfound)]
        | _ => rfl
  have hitems : ofItems defaults left entries = ofItems defaults right entries := by
    rw [ofItems_eq, ofItems_eq]
    cases hfound : entries.get? "items" with
    | none => rfl
    | some found =>
        have hitem := hparts found (.item hfound)
        cases found with
        | arr schemas =>
            exact ofPositions_congr fun schema hschema => hparts schema (.position hfound hschema)
        | _ => simp only [fromItems, hitem]
  rw [ofSchema, ofSchema, hmembers, hfurther, hitems, hname]

/-- Tables that agree on the name of a value and on the properties of its schema give the
same example or the same error. -/
theorem ofSchema_congr {schema : Value} (hname : AgreeOn left right (· ∈ name))
    (hagree : AgreeOn left right (HasProperty schema)) :
    ofSchema defaults left name schema = ofSchema defaults right name schema := by
  -- Examples are made part by part, and a part has no name unless it is a property.
  induction hsize : sizeOf schema using Nat.strong_induction_on generalizing schema name with
  | _ size ih =>
      have hpart : ∀ part, PartOf part schema → ∀ name, AgreeOn left right (· ∈ name) →
          ofSchema defaults left name part = ofSchema defaults right name part := by
        intro part hpart name hname
        have hinside : AgreeOn left right (HasProperty part) :=
          fun key hkey => hagree key (hkey.of_part hpart)
        exact ih _ (hsize ▸ hpart.sizeOf_lt) hname hinside rfl
      cases schema with
      | obj entries =>
          apply ofSchema_congr_of_parts
          · cases name with
            | none => rfl
            | some key => exact hname key rfl
          · intro properties hproperties entry hentry
            apply hpart entry.2 (.property hproperties hentry)
            rintro key ⟨⟩
            exact hagree entry.1 (.of_entry hproperties hentry)
          · intro part hinside
            apply hpart part hinside
            rintro key ⟨⟩
      | _ => rfl

/-! ### Places in an example -/

/-- A step from a value to one inside of it. -/
inductive Step where
  | property (key : String)
  | element (index : Nat)
  /-- To the entry that stands for further entries. -/
  | further

def Step.value? (defaults : Defaults) (value : Value) : Step → Option Value
  | .property key => value.get? key
  | .element index => value.asArray?.bind (·[index]?)
  | .further => value.get? defaults.jsonKey

/-- The value at the end of some steps. -/
def valueAt? (defaults : Defaults) : List Step → Value → Option Value
  | [], value => some value
  | step :: path, value => (step.value? defaults value).bind (valueAt? defaults path)

/-- A place in an example: the schema of the value there, and the name of the value. -/
structure Spot where
  /-- Only a property has a name, apart from the whole example. -/
  name : Option String
  schema : Value

/-- A step from one place to another.  There are no elements where the table has an example
for the array itself, and under the key of further entries stands the example of such an
entry wherever there is a schema for them. -/
inductive Spot.Leads (defaults : Defaults) (table : Table Value) : Spot → Step → Spot → Prop where
  | property {name : Option String} {entries properties : Table Value} {key : String}
      {schema : Value} (hkind : kindOf entries = .str "object")
      (hproperties : entries.get? "properties" = some (.obj properties))
      (hschema : properties.get? key = some schema)
      (hown : key = defaults.jsonKey →
        ∀ additional, entries.get? "additionalProperties" ≠ some (.obj additional)) :
      Leads defaults table ⟨name, .obj entries⟩ (.property key) ⟨some key, schema⟩
  | further {name : Option String} {entries additional : Table Value}
      (hkind : kindOf entries = .str "object")
      (hadditional : entries.get? "additionalProperties" = some (.obj additional)) :
      Leads defaults table ⟨name, .obj entries⟩ .further ⟨none, .obj additional⟩
  | item {name : Option String} {entries item : Table Value}
      (hkind : kindOf entries = .str "array") (hnamed : named? table name = none)
      (hitems : entries.get? "items" = some (.obj item)) :
      Leads defaults table ⟨name, .obj entries⟩ (.element 0) ⟨none, .obj item⟩
  | position {name : Option String} {entries : Table Value} {schemas : List Value} {index : Nat}
      {schema : Value} (hkind : kindOf entries = .str "array")
      (hnamed : named? table name = none)
      (hitems : entries.get? "items" = some (.arr schemas))
      (hschema : schemas[index]? = some schema) :
      Leads defaults table ⟨name, .obj entries⟩ (.element index) ⟨none, schema⟩

/-- Some steps from one place to another. -/
inductive Spot.LeadsTo (defaults : Defaults) (table : Table Value) :
    Spot → List Step → Spot → Prop where
  | here (spot : Spot) : LeadsTo defaults table spot [] spot
  | step {spot next last : Spot} {step : Step} {path : List Step}
      (hstep : spot.Leads defaults table step next)
      (hpath : LeadsTo defaults table next path last) :
      LeadsTo defaults table spot (step :: path) last

/-- At the end of a step stands the example of the schema there, under the name there. -/
theorem Spot.Leads.exists_value {spot next : Spot} {step : Step} {value : Value}
    (hstep : spot.Leads defaults table step next)
    (hvalue : ofSchema defaults table spot.name spot.schema = .ok value) :
    ∃ inner, step.value? defaults value = some inner ∧
      ofSchema defaults table next.name next.schema = .ok inner := by
  cases hstep with
  | @property name entries properties key schema hkind hproperties hschema hown =>
      obtain ⟨members, extra, rfl, hmembers, hextra⟩ := makes_object hkind hvalue
      rw [hproperties, fromProperties] at hmembers
      obtain ⟨inner, hinner, hexample⟩ := get?_of_ofNamed hmembers hschema
      refine ⟨inner, ?_, hexample⟩
      -- The entry for further entries would stand in front of a property of the same key.
      have hfree : (if key = defaults.jsonKey then extra else none) = none := by
        split
        · rename_i hkey
          cases extra with
          | none => rfl
          | some other =>
              obtain ⟨additional, hadditional, -⟩ := fromAdditional_eq_some.mp hextra
              exact absurd hadditional (hown hkey additional)
        · rfl
      change (withExtra defaults members extra).get? key = some inner
      rw [get?_withExtra, hfree, hinner, Option.none_or]
  | @further name entries additional hkind hadditional =>
      obtain ⟨members, extra, rfl, -, hextra⟩ := makes_object hkind hvalue
      rw [hadditional, fromAdditional] at hextra
      obtain ⟨inner, hinner, rfl⟩ := map_eq_ok_iff.mp hextra
      refine ⟨inner, ?_, hinner⟩
      change (withExtra defaults members (some inner)).get? defaults.jsonKey = some inner
      rw [get?_withExtra, if_pos rfl, Option.some_or]
  | @item name entries item hkind hnamed hitems =>
      obtain ⟨items, rfl, hmade⟩ := makes_array hkind hnamed hvalue
      rw [hitems, fromItems] at hmade
      · split at hmade
        · cases hmade
        · obtain ⟨inner, hinner, rfl⟩ := map_eq_ok_iff.mp hmade
          exact ⟨inner, rfl, hinner⟩
      · intro schemas hother
        cases hother
  | @position name entries schemas index schema hkind hnamed hitems hschema =>
      obtain ⟨items, rfl, hmade⟩ := makes_array hkind hnamed hvalue
      rw [hitems, fromItems] at hmade
      have hall := forall₂_of_ofPositions hmade
      obtain ⟨hindex, rfl⟩ := List.getElem?_eq_some_iff.mp hschema
      have hlength : index < items.length := hall.length_eq ▸ hindex
      exact ⟨items[index], List.getElem?_eq_getElem hlength, hall.get hindex hlength⟩

/-- A path that leads through a schema leads through its example as well. -/
theorem Spot.LeadsTo.exists_value {spot last : Spot} {path : List Step} {value : Value}
    (hpath : spot.LeadsTo defaults table path last)
    (hvalue : ofSchema defaults table spot.name spot.schema = .ok value) :
    ∃ inner, valueAt? defaults path value = some inner ∧
      ofSchema defaults table last.name last.schema = .ok inner := by
  induction hpath generalizing value with
  | here spot => exact ⟨value, rfl, hvalue⟩
  | step hstep _ ih =>
      obtain ⟨middle, hmiddle, hexample⟩ := hstep.exists_value hvalue
      obtain ⟨inner, hinner, hlast⟩ := ih hexample
      refine ⟨inner, ?_, hlast⟩
      rw [valueAt?, hmiddle]
      exact hinner

/-! ### What is replaced and what is not -/

/-- A schema for objects. -/
def IsObject (schema : Value) : Prop :=
  ∃ entries, schema = .obj entries ∧ kindOf entries = .str "object"

/-- A value with an example under its name is that example, unless it is an object. -/
theorem eq_of_named {schema value override : Value} (hobject : ¬ IsObject schema)
    (hnamed : named? table name = some override)
    (hvalue : ofSchema defaults table name schema = .ok value) : value = override := by
  cases schema with
  | obj entries =>
      have hmakes := ofSchema_eq_ok_iff.mp hvalue
      cases hmakes with
      | object hkind => exact absurd ⟨entries, rfl, hkind⟩ hobject
      | array _ hnone =>
          rw [hnamed] at hnone
          cases hnone
      | namedArray _ hsome =>
          rw [hnamed] at hsome
          exact (Option.some.inj hsome).symm
      | primitive =>
          rw [hnamed]
          rfl
  | _ => cases hvalue

/-- Examples by name act on properties alone.  Tables that agree on the name of the value and
on the properties in its schema cannot be told apart.  At every place inside the example,
what stands under no name is made from its schema and from the properties in it only, and
what stands under the name of a property is the example of that name unless it is an
object. -/
theorem overrides_by_property_name (defaults : Defaults) :
    (∀ (left right : Table Value) (name : Option String) (schema : Value),
      AgreeOn left right (· ∈ name) → AgreeOn left right (HasProperty schema) →
      ofSchema defaults left name schema = ofSchema defaults right name schema) ∧
    ∀ (table : Table Value) (name : Option String) (schema value : Value),
      ofSchema defaults table name schema = .ok value →
      ∀ path spot, Spot.LeadsTo defaults table ⟨name, schema⟩ path spot →
      ∃ inner, valueAt? defaults path value = some inner ∧
        (spot.name = none → ∀ other, AgreeOn other table (HasProperty spot.schema) →
          ofSchema defaults other none spot.schema = .ok inner) ∧
        (∀ key override, spot.name = some key → table.get? key = some override →
          ¬ IsObject spot.schema → inner = override) := by
  constructor
  · intro left right name schema hname hagree
    exact ofSchema_congr hname hagree
  · intro table name schema value hvalue path spot hpath
    obtain ⟨inner, hinner, hexample⟩ := hpath.exists_value hvalue
    refine ⟨inner, hinner, ?_, ?_⟩
    · intro hunnamed other hagree
      rw [hunnamed] at hexample
      rw [ofSchema_congr (fun key hkey => by cases hkey) hagree, hexample]
    · intro key override hkey hoverride hobject
      have hnamed : named? table spot.name = some override := by
        rw [hkey]
        exact hoverride
      exact eq_of_named hobject hnamed hexample

/-! ### A party with guests -/

def guestSchema : Table Value :=
  [("type", .str "object"), ("properties", .obj [("name", .obj [("type", .str "string")])])]

/-- A party has guests, and every further entry is a number. -/
def partySchema : Table Value :=
  [("type", .str "object"),
    ("properties", .obj [("guests", .obj [("type", .str "array"), ("items", .obj guestSchema)])]),
    ("additionalProperties", .obj [("type", .str "number")])]

/-- The name of a guest, and examples under names that no property has. -/
def partyExamples : Table Value :=
  [("name", .str "Ada"), ("key", .bool false), ("items", .str "nobody")]

def partyValue : Value :=
  .obj [("guests", .arr [.obj [("name", .str "Ada")]]), ("key", .int 0)]

theorem hasProperty_guest {key : String} (hkey : HasProperty (.obj guestSchema) key) :
    key = "name" := by
  obtain ⟨properties, hproperties, hmem⟩ | ⟨part, hpart, hinside⟩ := hkey.declares_or_part
  · cases hproperties
    exact List.mem_singleton.mp hmem
  · cases hpart with
    | item hitem => cases hitem
    | position hitems => cases hitems
    | property hproperties hmem =>
        cases hproperties
        cases List.mem_singleton.mp hmem
        exact absurd hinside (not_hasProperty_of_leaf rfl rfl rfl rfl)
    | additional hadditional => cases hadditional
    | choice hmembers => cases hmembers

theorem hasProperty_party {key : String} (hkey : HasProperty (.obj partySchema) key) :
    key = "guests" ∨ key = "name" := by
  obtain ⟨properties, hproperties, hmem⟩ | ⟨part, hpart, hinside⟩ := hkey.declares_or_part
  · cases hproperties
    exact .inl (List.mem_singleton.mp hmem)
  · cases hpart with
    | item hitem => cases hitem
    | position hitems => cases hitems
    | property hproperties hmem =>
        cases hproperties
        cases List.mem_singleton.mp hmem
        obtain ⟨other, hother, -⟩ | ⟨inner, hinner, hkey⟩ := hinside.declares_or_part
        · cases hother
        · cases hinner with
          | item hitem =>
              cases hitem
              exact .inr (hasProperty_guest hkey)
          | position hitems => cases hitems
          | property hproperties => cases hproperties
          | additional hadditional => cases hadditional
          | choice hmembers => cases hmembers
    | additional hadditional =>
        cases hadditional
        exact absurd hinside (not_hasProperty_of_leaf rfl rfl rfl rfl)
    | choice hmembers => cases hmembers

theorem agreeOn_party :
    AgreeOn partyExamples [("name", .str "Ada")] (HasProperty (.obj partySchema)) := by
  intro key hkey
  obtain rfl | rfl := hasProperty_party hkey
  · rfl
  · rfl

/-- The one guest and the further entry of the party are no examples by name, although there
is one for the key of the entry.  The name of the guest is. -/
theorem leadsTo_party :
    Spot.LeadsTo {} partyExamples ⟨none, .obj partySchema⟩ [.further]
        ⟨none, .obj [("type", .str "number")]⟩ ∧
      Spot.LeadsTo {} partyExamples ⟨none, .obj partySchema⟩
        [.property "guests", .element 0, .property "name"]
        ⟨some "name", .obj [("type", .str "string")]⟩ := by
  constructor
  · exact .step (.further rfl rfl) (.here _)
  · have hguests : "guests" ≠ Defaults.jsonKey {} := by decide
    have hname : "name" ≠ Defaults.jsonKey {} := by decide
    apply Spot.LeadsTo.step (.property rfl rfl rfl (absurd · hguests))
    apply Spot.LeadsTo.step (.item rfl rfl rfl)
    exact .step (.property rfl rfl rfl (absurd · hname)) (.here _)

theorem not_isObject_string : ¬ IsObject (.obj [("type", .str "string")]) := by
  rintro ⟨entries, hentries, hkind⟩
  cases hentries
  simp [kindOf, Table.get?] at hkind

/-- A party whose guests have names: of the table only the entry for `name` counts. -/
theorem overrides_by_property_name_party :
    ofSchema {} partyExamples none (.obj partySchema) = .ok partyValue ∧
      ofSchema {} partyExamples none (.obj partySchema) =
        ofSchema {} [("name", .str "Ada")] none (.obj partySchema) ∧
      (∃ inner, valueAt? {} [.further] partyValue = some inner ∧
        ofSchema {} [] none (.obj [("type", .str "number")]) = .ok inner) ∧
      valueAt? {} [.property "guests", .element 0, .property "name"] partyValue =
        some (.str "Ada") := by
  have hvalue : ofSchema {} partyExamples none (.obj partySchema) = .ok partyValue := rfl
  obtain ⟨hcongr, hplaces⟩ := overrides_by_property_name {}
  obtain ⟨entry, hentry, hown, -⟩ := hplaces _ _ _ _ hvalue _ _ leadsTo_party.1
  obtain ⟨guest, hguest, -, hnamed⟩ := hplaces _ _ _ _ hvalue _ _ leadsTo_party.2
  refine ⟨hvalue, hcongr _ _ none _ (by rintro _ ⟨⟩) agreeOn_party, ⟨entry, hentry, ?_⟩, ?_⟩
  · apply hown rfl
    intro key hkey
    exact absurd hkey (not_hasProperty_of_leaf rfl rfl rfl rfl)
  · rw [hguest, hnamed "name" (.str "Ada") rfl rfl not_isObject_string]

end RouteScribe.Example
