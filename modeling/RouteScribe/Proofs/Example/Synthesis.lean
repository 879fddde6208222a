import RouteScribe.Example
import RouteScribe.Proofs.Table

/-!
# How an example is made

An example is made from a few entries of a schema: its type, and then its properties, the
shape of its further entries or its items.  The relation `Makes` lists the ways in which
an example comes about.  Schemas that have these entries in common have the same examples,
whatever else they say.
-/

namespace RouteScribe.Example

open RouteScribe.Json RouteScribe.Config

variable (defaults : Defaults) (table : Table Value)

/-! ### Entries that are read -/

/-- The examples of properties from what a schema says about them. -/
def fromProperties : Option Value → Except ExampleError (Table Value)
  | some (.obj properties) => ofNamed defaults table properties
  | some other => if other.isFalsy then .ok [] else .error .notASchema
  | none => .ok []

/-- The example of a further entry from what a schema says about such. -/
def fromAdditional : Option Value → Except ExampleError (Option Value)
  | some (.obj schema) => (ofSchema defaults table none (.obj schema)).map some
  | _ => .ok none

/-- The examples of items from what a schema says about them. -/
def fromItems : Option Value → Except ExampleError (List Value)
  | some (.arr schemas) => ofPositions defaults table schemas
  | some schema =>
      if schema.isFalsy then .error (unsupported [])
      else (ofSchema defaults table none schema).map ([·])
  | none => .error (unsupported [])

-- Each of the three functions goes through the entries to the first one with its key.

theorem ofProperties_eq (entries : Table Value) :
    ofProperties defaults table entries =
      fromProperties defaults table (entries.get? "properties") := by
  induction entries with
  | nil => rfl
  | cons entry entries ih =>
      obtain ⟨key, value⟩ := entry
      by_cases hkey : key = "properties"
      · rw [hkey, Table.get?_cons_self]
        cases value <;> rfl
      · rw [Table.get?_cons_of_ne (Ne.symm hkey), ← ih]
        simp only [ofProperties.eq_def defaults table (_ :: _), hkey, if_false]

theorem ofAdditional_eq (entries : Table Value) :
    ofAdditional defaults table entries =
      fromAdditional defaults table (entries.get? "additionalProperties") := by
  induction entries with
  | nil => rfl
  | cons entry entries ih =>
      obtain ⟨key, value⟩ := entry
      by_cases hkey : key = "additionalProperties"
      · rw [hkey, Table.get?_cons_self]
        cases value <;> rfl
      · rw [Table.get?_cons_of_ne (Ne.symm hkey), ← ih]
        simp only [ofAdditional.eq_def defaults table (_ :: _), hkey, if_false]

theorem ofItems_eq (entries : Table Value) :
    ofItems defaults table entries = fromItems defaults table (entries.get? "items") := by
  induction entries with
  | nil => rfl
  | cons entry entries ih =>
      obtain ⟨key, value⟩ := entry
      by_cases hkey : key = "items"
      · rw [hkey, Table.get?_cons_self]
        cases value <;> rfl
      · rw [Table.get?_cons_of_ne (Ne.symm hkey), ← ih]
        simp only [ofItems.eq_def defaults table (_ :: _), hkey, if_false]

/-! ### Ways to an example -/

/-- The examples of an object's properties, followed by that of a further entry. -/
def withExtra (properties : Table Value) : Option Value → Table Value
  | some extra => properties.put defaults.jsonKey extra
  | none => properties

/-- How an example comes about from the entries of a schema. -/
inductive Makes (name : Option String) (entries : Table Value) : Value → Prop where
  | object {properties : Table Value} {extra : Option Value}
      (hkind : kindOf entries = .str "object")
      (hproperties : fromProperties defaults table (entries.get? "properties") = .ok properties)
      (hextra :
        fromAdditional defaults table (entries.get? "additionalProperties") = .ok extra) :
      Makes name entries (.obj (withExtra defaults properties extra))
  | array {items : List Value} (hkind : kindOf entries = .str "array")
      (hnamed : named? table name = none)
      (hitems : fromItems defaults table (entries.get? "items") = .ok items) :
      Makes name entries (.arr items)
  /-- The table has an example under the name of an array. -/
  | namedArray {value : Value} (hkind : kindOf entries = .str "array")
      (hnamed : named? table name = some value) : Makes name entries value
  /-- A plain value is the one under its name, or else the default. -/
  | primitive {kind : String} {value : Value} (hkind : kindOf entries = .str kind)
      (hvalue : primitive? defaults kind = some value) :
      Makes name entries ((named? table name).getD value)

theorem map_eq_ok_iff {ε α β : Type} {result : Except ε α} {convert : α → β} {value : β} :
    result.map convert = .ok value ↔ ∃ found, result = .ok found ∧ convert found = value := by
  cases result with
  | error error => simp [Except.map]
  | ok found => simp [Except.map]

theorem bind_eq_ok_iff {ε α β : Type} {result : Except ε α} {next : α → Except ε β} {value : β} :
    result >>= next = .ok value ↔ ∃ found, result = .ok found ∧ next found = .ok value := by
  cases result with
  | error error => simp [bind, Except.bind]
  | ok found => simp [bind, Except.bind]

theorem primitive?_object : primitive? defaults "object" = none := by
  simp [primitive?]

theorem primitive?_array : primitive? defaults "array" = none := by
  simp [primitive?]

variable {defaults table}

/-! ### Examples in a row and under names -/

/-- Each position has the example of its own schema. -/
theorem forall₂_of_ofPositions {schemas values : List Value}
    (hvalues : ofPositions defaults table schemas = .ok values) :
    List.Forall₂ (fun schema value => ofSchema defaults table none schema = .ok value)
      schemas values := by
  induction schemas generalizing values with
  | nil =>
      cases hvalues
      exact .nil
  | cons schema schemas ih =>
      rw [ofPositions] at hvalues
      obtain ⟨value, hvalue, hrest⟩ := bind_eq_ok_iff.mp hvalues
      obtain ⟨others, hothers, hcons⟩ := bind_eq_ok_iff.mp hrest
      cases hcons
      exact .cons hvalue (ih hothers)

/-- The examples of named schemas have the names of these schemas. -/
theorem names_of_ofNamed {schemas values : Table Value}
    (hvalues : ofNamed defaults table schemas = .ok values) :
    Table.names values = schemas.names := by
  induction schemas generalizing values with
  | nil =>
      cases hvalues
      rfl
  | cons property schemas ih =>
      rw [ofNamed] at hvalues
      obtain ⟨value, -, hrest⟩ := bind_eq_ok_iff.mp hvalues
      obtain ⟨others, hothers, hcons⟩ := bind_eq_ok_iff.mp hrest
      cases hcons
      exact congrArg (property.1 :: ·) (ih hothers)

/-- A property has the example of its schema, made under its name. -/
theorem get?_of_ofNamed {schemas values : Table Value}
    (hvalues : ofNamed defaults table schemas = .ok values) {name : String} {schema : Value}
    (hschema : schemas.get? name = some schema) :
    ∃ value, Table.get? values name = some value ∧
      ofSchema defaults table (some name) schema = .ok value := by
  induction schemas generalizing values with
  | nil => cases hschema
  | cons property schemas ih =>
      obtain ⟨other, first⟩ := property
      rw [ofNamed] at hvalues
      obtain ⟨value, hvalue, hrest⟩ := bind_eq_ok_iff.mp hvalues
      obtain ⟨others, hothers, hcons⟩ := bind_eq_ok_iff.mp hrest
      cases hcons
      by_cases hname : name = other
      · subst hname
        rw [Table.get?_cons_self] at hschema
        cases hschema
        exact ⟨value, Table.get?_cons_self name value others, hvalue⟩
      · rw [Table.get?_cons_of_ne hname] at hschema
        rw [Table.get?_cons_of_ne hname]
        exact ih hothers hschema

/-! ### Examples of schemas -/

/-- Each way of making an example is one the function takes. -/
theorem Makes.ofSchema_eq {name : Option String} {entries : Table Value} {value : Value}
    (hmakes : Makes defaults table name entries value) :
    ofSchema defaults table name (.obj entries) = .ok value := by
  cases hmakes with
  | @object properties extra hkind hproperties hextra =>
      rw [ofSchema, hkind]
      simp only [ofProperties_eq, ofAdditional_eq, hproperties, hextra]
      cases extra <;> rfl
  | array hkind hnamed hitems =>
      rw [ofSchema, hkind]
      simp only [hnamed, ofItems_eq, hitems]
      rfl
  | namedArray hkind hnamed =>
      rw [ofSchema, hkind]
      simp only [hnamed]
  | @primitive kind found hkind hvalue =>
      rw [ofSchema, hkind]
      split
      · rename_i heq
        cases heq
        simp [primitive?_object] at hvalue
      · rename_i heq
        cases heq
        simp [primitive?_array] at hvalue
      · rename_i heq
        cases heq
        simp only [hvalue]
      · rename_i hother
        exact absurd rfl (hother kind)

/-- The function makes examples in these ways only. -/
theorem makes_of_ofSchema {name : Option String} {entries : Table Value} {value : Value}
    (hvalue : ofSchema defaults table name (.obj entries) = .ok value) :
    Makes defaults table name entries value := by
  rw [ofSchema] at hvalue
  split at hvalue
  · rename_i hkind
    rw [ofProperties_eq, ofAdditional_eq] at hvalue
    obtain ⟨properties, hproperties, hrest⟩ := bind_eq_ok_iff.mp hvalue
    obtain ⟨extra, hextra, hobject⟩ := bind_eq_ok_iff.mp hrest
    have hmakes : Makes defaults table name entries _ := .object hkind hproperties hextra
    cases extra with
    | none =>
        cases hobject
        exact hmakes
    | some extra =>
        cases hobject
        exact hmakes
  · rename_i hkind
    split at hvalue
    · rename_i found hnamed
      cases hvalue
      exact .namedArray hkind hnamed
    · rename_i hnamed
      rw [ofItems_eq] at hvalue
      obtain ⟨items, hitems, rfl⟩ := map_eq_ok_iff.mp hvalue
      exact .array hkind hnamed hitems
  · rename_i kind hobject harray hkind
    split at hvalue
    · rename_i found hfound
      cases hvalue
      exact .primitive hkind hfound
    · cases hvalue
  · cases hvalue

/-- The ways to an example are those that `Makes` lists. -/
theorem ofSchema_eq_ok_iff {name : Option String} {entries : Table Value} {value : Value} :
    ofSchema defaults table name (.obj entries) = .ok value ↔
      Makes defaults table name entries value :=
  ⟨makes_of_ofSchema, Makes.ofSchema_eq⟩

/-- An example of an object has its properties first and then the further entry. -/
theorem makes_object {name : Option String} {entries : Table Value} {value : Value}
    (hkind : kindOf entries = .str "object")
    (hvalue : ofSchema defaults table name (.obj entries) = .ok value) :
    ∃ members extra, value = .obj (withExtra defaults members extra) ∧
      fromProperties defaults table (entries.get? "properties") = .ok members ∧
      fromAdditional defaults table (entries.get? "additionalProperties") = .ok extra := by
  have hmakes := ofSchema_eq_ok_iff.mp hvalue
  cases hmakes with
  | object _ hproperties hextra => exact ⟨_, _, rfl, hproperties, hextra⟩
  | array hother => simp [hkind] at hother
  | namedArray hother => simp [hkind] at hother
  | primitive hother hprimitive =>
      rw [hkind] at hother
      cases hother
      rw [primitive?_object] at hprimitive
      cases hprimitive

/-- The example of an array is made of its items, if its name has no example. -/
theorem makes_array {name : Option String} {entries : Table Value} {value : Value}
    (hkind : kindOf entries = .str "array") (hnamed : named? table name = none)
    (hvalue : ofSchema defaults table name (.obj entries) = .ok value) :
    ∃ items, value = .arr items ∧
      fromItems defaults table (entries.get? "items") = .ok items := by
  have hmakes := ofSchema_eq_ok_iff.mp hvalue
  cases hmakes with
  | object hother => simp [hkind] at hother
  | array _ _ hitems => exact ⟨_, rfl, hitems⟩
  | namedArray _ hother => simp [hnamed] at hother
  | primitive hother hprimitive =>
      rw [hkind] at hother
      cases hother
      rw [primitive?_array] at hprimitive
      cases hprimitive

/-! ### Declared properties -/

/-- The further entry comes before a property of the same name. -/
theorem get?_withExtra (members : Table Value) (extra : Option Value) (property : String) :
    (withExtra defaults members extra).get? property =
      (if property = defaults.jsonKey then extra else none).or (members.get? property) := by
  cases extra with
  | none => simp [withExtra]
  | some value =>
      by_cases hkey : property = defaults.jsonKey
      · rw [if_pos hkey, hkey]
        exact Table.get?_put_self defaults.jsonKey value members
      · rw [if_neg hkey]
        exact Table.get?_put_of_ne hkey value members

/-- A further entry has an example exactly if there is a schema for such entries, and then it
is the example of that schema. -/
theorem fromAdditional_eq_some {found : Option Value} {value : Value} :
    fromAdditional defaults table found = .ok (some value) ↔
      ∃ additional, found = some (.obj additional) ∧
        ofSchema defaults table none (.obj additional) = .ok value := by
  constructor
  · intro hextra
    unfold fromAdditional at hextra
    split at hextra
    · rename_i additional
      obtain ⟨made, hmade, heq⟩ := map_eq_ok_iff.mp hextra
      cases heq
      exact ⟨additional, rfl, hmade⟩
    · cases hextra
  · rintro ⟨additional, rfl, hvalue⟩
    exact map_eq_ok_iff.mpr ⟨value, hvalue, rfl⟩

/-- A further entry of an object has the key of a declared property, and an example that is
not the property's own. -/
def Supplants (defaults : Defaults) (table entries : Table Value) (property : String)
    (own : Value) : Prop :=
  property = defaults.jsonKey ∧ ∃ additional other,
    entries.get? "additionalProperties" = some (.obj additional) ∧
      ofSchema defaults table none (.obj additional) = .ok other ∧ other ≠ own

/-- The example of an object has a value for every declared property.  It is the example of
the property's schema under its name, unless a further entry takes its place. -/
theorem declared_kept_iff {name : Option String} {entries : Table Value} {value : Value}
    (hkind : kindOf entries = .str "object")
    (hvalue : ofSchema defaults table name (.obj entries) = .ok value)
    {properties : Table Value} (hproperties : entries.get? "properties" = some (.obj properties))
    {property : String} {schema : Value} (hschema : properties.get? property = some schema) :
    ∃ own shown, ofSchema defaults table (some property) schema = .ok own ∧
      value.get? property = some shown ∧
      (shown = own ↔ ¬ Supplants defaults table entries property own) := by
  obtain ⟨members, extra, rfl, hmembers, hextra⟩ := makes_object hkind hvalue
  rw [hproperties, fromProperties] at hmembers
  obtain ⟨own, hown, hexample⟩ := get?_of_ofNamed hmembers hschema
  have hshown : (Value.obj (withExtra defaults members extra)).get? property = _ :=
    get?_withExtra members extra property
  rw [hown] at hshown
  cases hplace : (if property = defaults.jsonKey then extra else none) with
  | none =>
      rw [hplace, Option.none_or] at hshown
      refine ⟨own, own, hexample, hshown, iff_of_true rfl ?_⟩
      rintro ⟨hkey, additional, other, hadditional, hother, -⟩
      rw [if_pos hkey] at hplace
      have hsome := fromAdditional_eq_some.mpr ⟨additional, hadditional, hother⟩
      rw [hextra, hplace] at hsome
      cases hsome
  | some other =>
      rw [hplace, Option.some_or] at hshown
      obtain ⟨hkey, rfl⟩ := Option.ite_none_right_eq_some.mp hplace
      obtain ⟨additional, hadditional, hother⟩ := fromAdditional_eq_some.mp hextra
      refine ⟨own, other, hexample, hshown, ?_⟩
      constructor
      · rintro rfl ⟨-, again, third, hagain, hthird, hne⟩
        rw [hadditional] at hagain
        cases hagain
        rw [hother] at hthird
        cases hthird
        exact hne rfl
      · intro hkept
        by_contra hne
        exact hkept ⟨hkey, additional, other, hadditional, hother, hne⟩

/-- The entries of an object schema that declares the default key of further entries. -/
def ratesEntries : Table Value :=
  [("type", .str "object"),
    ("properties", .obj [("key", .obj [("type", .str "string")]),
      ("base", .obj [("type", .str "string")])]),
    ("additionalProperties", .obj [("type", .str "number")])]

theorem example_of_rates : ofSchema {} [] none (.obj ratesEntries) =
    .ok (.obj [("key", .int 0), ("base", .str "abcd")]) := rfl

/-- The example of a further entry takes the place of a declared text. -/
theorem declared_text_replaced :
    ∃ value own, ofSchema {} [] none (.obj ratesEntries) = .ok value ∧
      ofSchema {} [] (some "key") (.obj [("type", .str "string")]) = .ok own ∧
      value.get? "key" ≠ some own := by
  refine ⟨_, _, example_of_rates, rfl, ?_⟩
  intro hkept
  cases hkept

theorem declared_kept_iff_rates :
    ∃ own, ofSchema {} [] (some "base") (.obj [("type", .str "string")]) = .ok own ∧
      (Value.obj [("key", .int 0), ("base", .str "abcd")]).get? "base" = some own := by
  have hbase : Table.get? [("key", Value.obj [("type", .str "string")]),
      ("base", .obj [("type", .str "string")])] "base" = some (.obj [("type", .str "string")]) :=
    rfl
  obtain ⟨own, shown, hown, hshown, hkept⟩ := declared_kept_iff rfl example_of_rates rfl hbase
  have hother : ¬ Supplants {} [] ratesEntries "base" own := fun hsupplants =>
    absurd hsupplants.1 (by decide)
  exact ⟨own, hown, hkept.mpr hother ▸ hshown⟩

end RouteScribe.Example
